import TechniqueScan.Proofs.Report.Procedures

/-!
What a report accounts for. Every finding of an active category counts in the section of its category and
in the summary of its procedure, whether it is listed or not; a cap on the listing hides the findings that
are listed last, and nothing else of the report depends on it.
-/

namespace TechniqueScan

open Arithmetic hiding max
open Std (OrientedCmp)

variable {α : Type} [Arithmetic α]

/-! ## Sections -/

/-- A section that accounts for the findings of a category and lists the first of them. -/
structure CategoryReport.Accounts (topN : Option Nat) (c : Category) (findings : List (Finding α))
    (s : CategoryReport α) : Prop where
  category : s.category = c
  label : s.label = c.label
  total : s.totalFindings = findings.length
  /-- What is listed and what is hidden are all findings in listing order, cut at the cap. -/
  listed : ∃ hidden, StablySorted Finding.listingOrder findings (s.findings ++ hidden) ∧
    s.findings.length = topN.elim findings.length (min · findings.length) ∧
    ∀ f ∈ s.findings, ∀ g ∈ hidden, g.listingOrder f ≠ .lt
  highest : Highest (findings.map (·.confidence)) s.maxConfidence
  score : s.score = s.maxConfidence

/-- The section without its listing. -/
def CategoryReport.unlisted (s : CategoryReport α) : CategoryReport α := { s with findings := [] }

/-- The report without its listings. -/
def Report.unlisted (r : Report α) : Report α :=
  { r with perCategory := r.perCategory.map fun e => (e.1, e.2.unlisted) }

namespace Report

variable {settings : ReportSettings α} {c : Category} {findings : List (Finding α)}

theorem sectionOf_listed : (sectionOf settings c findings).findings =
    (rank findings).take (settings.topN.getD findings.length) := by
  have length := (rank_perm findings).length_eq
  unfold sectionOf
  cases settings.topN with
  | none => exact (List.take_of_length_le length.le).symm
  | some n => rfl

variable [OrderedArithmetic α]

theorem sectionOf_highest (numbers : ∀ f ∈ findings, isNaN f.confidence = false) :
    Highest (findings.map (·.confidence)) (sectionOf settings c findings).maxConfidence := by
  have perm := (rank_perm findings).map (·.confidence)
  have ordered := rank_pairwise findings
  have numbers' : ∀ f ∈ rank findings, isNaN f.confidence = false := fun f member =>
    numbers f ((rank_perm findings).mem_iff.mp member)
  refine Highest.of_perm ?_ perm
  unfold sectionOf
  cases ranked : rank findings with
  | nil => exact ⟨fun _ => rfl, nofun, fun filled => (filled rfl).elim⟩
  | cons g rest =>
    rw [ranked] at ordered numbers'
    have first : le g.confidence g.confidence := OrderedArithmetic.le_refl (numbers' g List.mem_cons_self)
    refine ⟨nofun, ?_, fun _ => ⟨g.confidence, List.mem_cons_self, first⟩⟩
    rw [List.map_cons, List.forall_mem_cons]
    refine ⟨first, ?_⟩
    intro y listed
    obtain ⟨f, later, rfl⟩ := List.mem_map.mp listed
    have before := Finding.confidence_isLE ((List.pairwise_cons.mp ordered).1 f later)
    exact OrderedArithmetic.le_iff.mpr ⟨numbers' f (List.mem_cons_of_mem _ later),
      numbers' g List.mem_cons_self, OrderedArithmetic.not_lt_of_isLE before⟩

theorem sectionOf_accounts (numbers : ∀ f ∈ findings, isNaN f.confidence = false) :
    (sectionOf settings c findings).Accounts settings.topN c findings := by
  have sorted : StablySorted Finding.listingOrder findings (rank findings) :=
    mergeSort_stablySorted Finding.listingOrder findings
  have length := (rank_perm findings).length_eq
  refine ⟨rfl, rfl, length, ?_, sectionOf_highest numbers, rfl⟩
  rw [sectionOf_listed]
  refine ⟨(rank findings).drop (settings.topN.getD findings.length), ?_, ?_, ?_⟩
  · rw [List.take_append_drop]
    exact sorted
  · rw [List.length_take, length]
    cases settings.topN with
    | none => exact Nat.min_self _
    | some n => rfl
  · intro f listed g hidden
    have ordered := sorted.ordered
    rw [← List.take_append_drop (settings.topN.getD findings.length) (rank findings)] at ordered
    have before := (List.pairwise_append.mp ordered).2.2 f listed g hidden
    intro after
    rw [OrientedCmp.gt_of_lt after] at before
    cases before

/-! ## The report -/

/-- A report that accounts for the findings of the active categories. -/
structure AccountsFor (topN : Option Nat) (active : List Category) (findings : List (Finding α))
    (r : Report α) : Prop where
  ascends : StrictlyAscending (r.perCategory.map (·.1))
  mem_perCategory : ∀ c, c ∈ r.perCategory.map (·.1) ↔ c ∈ active
  sections : ∀ e ∈ r.perCategory, e.2.Accounts topN e.1 (findings.filter fun f => f.category = e.1)
  procedures_nodup : (r.procedures.map (·.scope)).Nodup
  mem_procedures : ∀ s, s ∈ r.procedures.map (·.scope) ↔
    s.isProcedure ∧ ∃ f ∈ findings, f.category ∈ active ∧ f.scope = s
  procedures : ∀ p ∈ r.procedures, p.Sums (findings.filter fun f => f.category ∈ active)
  procedures_ordered : r.procedures.Pairwise fun p q => lt q.maxConfidence p.maxConfidence ∨
    lt p.maxConfidence q.maxConfidence = false ∧ compare p.scope q.scope = .lt
  procedures_count : (r.procedures.map (·.findingCount)).sum =
    (findings.filter fun f => f.category ∈ active ∧ f.scope.isProcedure).length

variable (settings : ReportSettings α) (active : List Category) (title binaryId : String)
  (findings : List (Finding α))

/-- The findings of the active categories, category by category. -/
def activeFindings : List (Finding α) :=
  (Category.all.filter active.contains).flatMap fun c => findings.filter fun f => f.category = c

omit [Arithmetic α] in
theorem activeFindings_perm :
    (activeFindings active findings).Perm (findings.filter fun f => f.category ∈ active) := by
  have covered : ∀ f ∈ findings.filter fun f => f.category ∈ active,
      f.category ∈ Category.all.filter active.contains := by
    intro f member
    exact (mem_active active).mpr (of_decide_eq_true (List.mem_filter.mp member).2)
  have grouped := flatMap_filter_perm (Category.all_nodup.filter active.contains) covered
  have same : activeFindings active findings = (Category.all.filter active.contains).flatMap fun c =>
      (findings.filter fun f => f.category ∈ active).filter fun f => f.category = c := by
    refine List.flatMap_congr fun c listed => ?_
    have isActive := (mem_active active).mp listed
    rw [List.filter_filter]
    refine List.filter_congr fun f _ => ?_
    by_cases own : f.category = c
    · simp [own, isActive]
    · simp [own]
  rw [same]
  exact grouped

omit [OrderedArithmetic α] in
theorem build_procedures : (build settings active title binaryId findings).procedures =
    summaries (activeFindings active findings) := by
  rw [build, activeFindings, List.flatMap_map]

variable {findings}

theorem build_accountsFor (nonneg : ∀ f ∈ findings, le (ofNat 0) f.confidence) :
    (build settings active title binaryId findings).AccountsFor settings.topN active findings := by
  have perm := activeFindings_perm active findings
  have nonneg' : ∀ f ∈ activeFindings active findings, le (ofNat 0) f.confidence := by
    intro f member
    exact nonneg f (List.mem_filter.mp (perm.mem_iff.mp member)).1
  have categories : (build settings active title binaryId findings).perCategory.map (·.1) =
      Category.all.filter active.contains := by
    rw [build_perCategory, List.map_map]
    exact List.map_id _
  have procedures := build_procedures settings active title binaryId findings
  constructor
  case ascends =>
    rw [categories]
    exact Category.all_ascends.filter _
  case mem_perCategory =>
    intro c
    rw [categories, mem_active]
  case sections =>
    intro e member
    rw [build_perCategory] at member
    obtain ⟨c, _, rfl⟩ := List.mem_map.mp member
    refine sectionOf_accounts fun f own => ?_
    exact OrderedArithmetic.isNaN_of_le (nonneg f (List.mem_filter.mp own).1)
  case procedures_nodup =>
    rw [procedures]
    exact summaries_scopes_nodup _
  case mem_procedures =>
    intro s
    rw [procedures, (summaries_scopes _).mem_iff, mem_procedureScopes]
    simp only [perm.mem_iff, List.mem_filter, decide_eq_true_eq, and_assoc]
  case procedures =>
    rw [procedures]
    exact fun p member => (summaries_sums nonneg' p member).of_perm perm
  case procedures_ordered =>
    rw [procedures]
    exact summaries_ordered nonneg'
  case procedures_count =>
    rw [procedures, summaries_count, (perm.filter _).length_eq, List.filter_filter]
    simp only [Bool.decide_and, Bool.decide_eq_true, Bool.and_comm]

/-! ## The cap -/

omit [OrderedArithmetic α] in
/-- Reports whose settings differ in the cap alone are equal but for their listings. -/
theorem build_unlisted {settings settings' : ReportSettings α}
    (weights : settings'.categoryWeights = settings.categoryWeights) :
    (build settings' active title binaryId findings).unlisted =
      (build settings active title binaryId findings).unlisted := by
  have weight : settings'.weightFor = settings.weightFor := by
    funext c
    rw [ReportSettings.weightFor, weights, ReportSettings.weightFor]
  simp only [Report.unlisted, build, List.map_map, weight]
  rfl

omit [OrderedArithmetic α] in
theorem build_listing_prefix {e : Category × CategoryReport α}
    (member : e ∈ (build settings active title binaryId findings).perCategory) :
    e.2.findings <+: rank (findings.filter fun f => f.category = e.1) := by
  rw [build_perCategory] at member
  obtain ⟨c, _, rfl⟩ := List.mem_map.mp member
  rw [sectionOf_listed]
  exact List.take_prefix _ _

/-- A report accounts for all findings of active categories, listed or not. Another cap changes nothing
but how many findings are listed, of which the one listing has the first of the other. -/
theorem build_accounts (nonneg : ∀ f ∈ findings, le (ofNat 0) f.confidence) :
    (build settings active title binaryId findings).AccountsFor settings.topN active findings ∧
      ∀ settings' : ReportSettings α, settings'.categoryWeights = settings.categoryWeights →
        (build settings' active title binaryId findings).unlisted =
            (build settings active title binaryId findings).unlisted ∧
          ∀ e ∈ (build settings active title binaryId findings).perCategory,
            ∀ e' ∈ (build settings' active title binaryId findings).perCategory, e'.1 = e.1 →
              e.2.findings <+: e'.2.findings ∨ e'.2.findings <+: e.2.findings := by
  refine ⟨build_accountsFor settings active title binaryId nonneg, ?_⟩
  intro settings' weights
  refine ⟨build_unlisted active title binaryId weights, ?_⟩
  intro e member e' member' same
  have listing := build_listing_prefix settings active title binaryId member
  have listing' := build_listing_prefix settings' active title binaryId member'
  rw [same] at listing'
  exact List.prefix_or_prefix_of_prefix listing listing'

/-- Findings in two procedures and in none, of which one is of a category that is not active. -/
def scatteredFindings : List (Finding Float) :=
  [⟨.network, .procedure "send", 8, none, "late", ["socket"], 0.25, []⟩,
    ⟨.xpc, .procedure "send", 8, none, "inactive", ["listener"], 1.0, []⟩,
    ⟨.network, .whole, 0, none, "strongest", ["socket"], 0.75, []⟩,
    ⟨.c2, .procedure "main", 4, none, "nothing", ["beacon"], -0.0, []⟩,
    ⟨.network, .procedure "send", 4, none, "early", ["resolver"], 0.25, []⟩]

/-- Lists one finding of each category. -/
def cappedSettings : ReportSettings Float :=
  { topN := some 1, categoryWeights := [(.c2, 2)], minConfidence := 0 }

/-- Lists all findings. -/
def openSettings : ReportSettings Float := { cappedSettings with topN := none }

theorem build_accounts_scattered :
    (∀ f ∈ scatteredFindings, le (ofNat 0) f.confidence) ∧
      openSettings.categoryWeights = cappedSettings.categoryWeights ∧
      (build cappedSettings [.network, .c2, .network] "scan" "sample" scatteredFindings).AccountsFor
        (some 1) [.network, .c2, .network] scatteredFindings ∧
      (build openSettings [.network, .c2, .network] "scan" "sample" scatteredFindings).unlisted =
          (build cappedSettings [.network, .c2, .network] "scan" "sample" scatteredFindings).unlisted ∧
        ∀ e ∈ (build cappedSettings [.network, .c2, .network] "scan" "sample"
            scatteredFindings).perCategory,
          ∀ e' ∈ (build openSettings [.network, .c2, .network] "scan" "sample"
              scatteredFindings).perCategory, e'.1 = e.1 →
            e.2.findings <+: e'.2.findings ∨ e'.2.findings <+: e.2.findings := by
  have nonneg : ∀ f ∈ scatteredFindings, le (ofNat 0) f.confidence := by decide +kernel
  have ⟨accounts, cap⟩ :=
    build_accounts cappedSettings [.network, .c2, .network] "scan" "sample" nonneg
  exact ⟨nonneg, rfl, accounts, cap openSettings rfl⟩

end Report

end TechniqueScan
