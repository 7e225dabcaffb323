import TechniqueScan.Proofs.Report
import TechniqueScan.Proofs.Scoring.Comparison

/-!
The procedures of a report. Each procedure with findings has one summary, which counts the findings in it
and keeps the highest of their confidences, and each such finding is counted once.
-/

namespace TechniqueScan

open Arithmetic hiding max
open Std (TransCmp LawfulEqOrd)

variable {α : Type} [Arithmetic α]

/-- A summary of the findings that are in its scope, whatever their category. -/
structure ProcedureSummary.Sums (findings : List (Finding α)) (p : ProcedureSummary α) : Prop where
  count : p.findingCount = (findings.filter fun f => f.scope = p.scope).length
  ascends : StrictlyAscending p.categories
  mem_categories : ∀ c, c ∈ p.categories ↔ ∃ f ∈ findings, f.scope = p.scope ∧ f.category = c
  highest : Highest ((findings.filter fun f => f.scope = p.scope).map (·.confidence)) p.maxConfidence

theorem ProcedureSummary.Sums.of_perm {findings others : List (Finding α)} {p : ProcedureSummary α}
    (sums : p.Sums findings) (perm : findings.Perm others) : p.Sums others := by
  have here := perm.filter fun f => f.scope = p.scope
  refine ⟨sums.count.trans here.length_eq, sums.ascends, ?_, sums.highest.of_perm (here.map _)⟩
  intro c
  rw [sums.mem_categories]
  exact exists_congr fun f => and_congr_left' perm.mem_iff

namespace Report

/-- The procedures in which there are findings, in order of names. -/
def procedureScopes (findings : List (Finding α)) : List Scope :=
  ascending ((findings.map (·.scope)).filter Scope.isProcedure)

omit [Arithmetic α] in
theorem mem_procedureScopes {findings : List (Finding α)} {s : Scope} :
    s ∈ procedureScopes findings ↔ s.isProcedure ∧ ∃ f ∈ findings, f.scope = s := by
  rw [procedureScopes, mem_ascending, List.mem_filter, List.mem_map, and_comm]

/-! ## The highest confidence -/

variable [OrderedArithmetic α]

/-- The greatest of some confidences of which none is below 0 is 0 or a confidence above it. -/
theorem greatest_reached {confidences : List α} (nonneg : ∀ y ∈ confidences, le (ofNat 0) y) :
    greatest confidences = ofNat 0 ∨
      lt (ofNat 0) (greatest confidences) ∧ greatest confidences ∈ confidences :=
  (OrderedArithmetic.foldl_max OrderedArithmetic.zero_number
    fun y member => OrderedArithmetic.isNaN_of_le (nonneg y member)).1

theorem greatest_highest {confidences : List α} (nonneg : ∀ y ∈ confidences, le (ofNat 0) y) :
    Highest confidences (greatest confidences) := by
  obtain ⟨_, _, bound⟩ := OrderedArithmetic.foldl_max OrderedArithmetic.zero_number
    fun y member => OrderedArithmetic.isNaN_of_le (nonneg y member)
  refine ⟨?_, bound, ?_⟩
  · rintro rfl
    rfl
  · intro filled
    rcases greatest_reached nonneg with zero | ⟨_, member⟩
    · obtain ⟨y, member⟩ := List.exists_mem_of_ne_nil _ filled
      exact ⟨y, member, zero ▸ nonneg y member⟩
    · exact ⟨_, member, OrderedArithmetic.le_refl (OrderedArithmetic.isNaN_of_le (nonneg _ member))⟩

/-! ## One summary for each procedure -/

/-- The order of summaries: by falling confidence, then by name. -/
def summaryOrder (p q : ProcedureSummary α) : Ordering :=
  (compareTotal q.maxConfidence p.maxConfidence).then (compare p.scope q.scope)

instance : TransCmp (@summaryOrder α _) :=
  have := falling_transCmp (α := α) ProcedureSummary.maxConfidence
  inferInstanceAs <| TransCmp (compareLex (fun p q : ProcedureSummary α =>
    compareTotal q.maxConfidence p.maxConfidence) (compareOn ProcedureSummary.scope))

variable (findings : List (Finding α))

omit [OrderedArithmetic α] in
theorem summaries_perm :
    (summaries findings).Perm ((procedureScopes findings).map (summaryOf findings)) :=
  List.mergeSort_perm _ _

omit [OrderedArithmetic α] in
theorem summaries_scopes : ((summaries findings).map (·.scope)).Perm (procedureScopes findings) := by
  have scopes := (summaries_perm findings).map (·.scope)
  rw [List.map_map] at scopes
  simpa [Function.comp_def, summaryOf] using scopes

omit [OrderedArithmetic α] in
theorem summaries_scopes_nodup : ((summaries findings).map (·.scope)).Nodup :=
  (summaries_scopes findings).nodup_iff.mpr (ascending_nodup _)

variable {findings}

omit [OrderedArithmetic α] in
theorem mem_summaries {p : ProcedureSummary α} : p ∈ summaries findings ↔
    ∃ s ∈ procedureScopes findings, summaryOf findings s = p := by
  rw [(summaries_perm findings).mem_iff, List.mem_map]

omit [OrderedArithmetic α] in
theorem confidencesIn_nonneg (nonneg : ∀ f ∈ findings, le (ofNat 0) f.confidence) (s : Scope) :
    ∀ y ∈ (findings.filter fun f => f.scope = s).map (·.confidence), le (ofNat 0) y := by
  intro y listed
  obtain ⟨f, inside, rfl⟩ := List.mem_map.mp listed
  exact nonneg f (List.mem_filter.mp inside).1

theorem summaries_sums (nonneg : ∀ f ∈ findings, le (ofNat 0) f.confidence) :
    ∀ p ∈ summaries findings, p.Sums findings := by
  intro p member
  obtain ⟨s, _, rfl⟩ := mem_summaries.mp member
  refine ⟨rfl, ?_, ?_, greatest_highest (confidencesIn_nonneg nonneg s)⟩
  · exact Category.all_ascends.filter fun c =>
      (findings.filter fun f => f.scope = s).any fun f => f.category = c
  · intro c
    simp [summaryOf, Category.mem_all]

omit [OrderedArithmetic α] in
/-- Each finding in a procedure is counted by one summary. -/
theorem summaries_count : ((summaries findings).map (·.findingCount)).sum =
    (findings.filter fun f => f.scope.isProcedure).length := by
  have counts := ((summaries_perm findings).map (·.findingCount)).sum_eq
  have grouped : ((procedureScopes findings).flatMap fun s =>
      (findings.filter fun f => f.scope.isProcedure).filter fun f => f.scope = s).Perm
        (findings.filter fun f => f.scope.isProcedure) := by
    refine flatMap_filter_perm (ascending_nodup _) ?_
    intro f member
    obtain ⟨inside, procedure⟩ := List.mem_filter.mp member
    exact mem_procedureScopes.mpr ⟨procedure, f, inside, rfl⟩
  rw [counts, ← grouped.length_eq, List.length_flatMap, List.map_map]
  refine congrArg _ (List.map_congr_left fun s listed => ?_)
  -- What is in a procedure is in a procedure scope, so the outer filter drops nothing of it.
  have procedure := (mem_procedureScopes.mp listed).1
  rw [List.filter_filter]
  refine congrArg _ (List.filter_congr fun f _ => ?_)
  by_cases here : f.scope = s
  · simp [here, procedure]
  · simp [here]

/-- Summaries stand by falling confidence; those of equal confidence by name. -/
theorem summaries_ordered (nonneg : ∀ f ∈ findings, le (ofNat 0) f.confidence) :
    (summaries findings).Pairwise fun p q => lt q.maxConfidence p.maxConfidence ∨
      lt p.maxConfidence q.maxConfidence = false ∧ compare p.scope q.scope = .lt := by
  have sorted : (summaries findings).Pairwise fun p q => (summaryOrder p q).isLE :=
    mergeSort_pairwise_isLE summaryOrder _
  have apart := List.pairwise_map.mp (summaries_scopes_nodup findings)
  have reached : ∀ p ∈ summaries findings,
      p.maxConfidence = ofNat 0 ∨ lt (ofNat 0) p.maxConfidence := by
    intro p member
    obtain ⟨s, _, rfl⟩ := mem_summaries.mp member
    exact (greatest_reached (confidencesIn_nonneg nonneg s)).imp_right And.left
  refine (sorted.and apart).imp_of_mem ?_
  rintro p q member member' ⟨before, different⟩
  rcases Ordering.isLE_then_iff_or.mp before with higher | ⟨equal, byName⟩
  · exact .inl (OrderedArithmetic.lt_of_compareTotal (reached q member') (reached p member) higher)
  · refine .inr ⟨OrderedArithmetic.not_lt_of_isLE (Ordering.isLE_of_eq_eq equal), ?_⟩
    refine (Ordering.isLE_iff_eq_lt_or_eq_eq.mp byName).resolve_right fun same => ?_
    exact different (LawfulEqOrd.eq_of_compare same)

end Report

end TechniqueScan
