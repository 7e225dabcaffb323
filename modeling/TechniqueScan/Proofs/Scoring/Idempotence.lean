import TechniqueScan.Proofs.Scoring.Ranking

/-!
Scoring what is scored. What is left after merging has no key twice, and what is listed is in order
already, so that a second run has nothing to merge, to drop or to move.
-/

namespace TechniqueScan

open Std (TransCmp)

variable {α : Type} [Arithmetic α]

/-! ## Merging -/

theorem absorb_of_absent {k : FindingKey} {entries : List (FindingKey × Finding α)}
    (absent : k ∉ entries.map (·.1)) (f : Finding α) : absorb k f entries = entries ++ [(k, f)] := by
  induction entries with
  | nil => rfl
  | cons e rest ih =>
    obtain ⟨k', g⟩ := e
    have other : k' ≠ k := fun same => absent (same ▸ List.mem_cons_self)
    rw [absorb, if_neg other, ih fun later => absent (List.mem_cons_of_mem _ later), List.cons_append]

theorem foldl_absorb_of_nodup {findings : List (Finding α)} (once : (findings.map Finding.key).Nodup) :
    findings.foldl (fun kept f => absorb f.key f kept) [] = findings.map fun f => (f.key, f) := by
  induction findings using List.reverseRecOn with
  | nil => rfl
  | append_singleton earlier f ih =>
    rw [List.map_append, List.map_singleton, List.nodup_append'] at once
    obtain ⟨once, _, apart⟩ := once
    have absent : f.key ∉ (earlier.map fun f => (f.key, f)).map (·.1) := by
      rw [List.map_map]
      exact List.disjoint_singleton.mp apart
    rw [List.foldl_append, List.foldl_cons, List.foldl_nil, ih once, absorb_of_absent absent,
      List.map_append, List.map_singleton]

/-- Findings with pairwise different keys are left as they are. -/
theorem deduplicate_of_nodup {findings : List (Finding α)} (once : (findings.map Finding.key).Nodup) :
    deduplicate findings = findings := by
  rw [deduplicate, foldl_absorb_of_nodup once, List.map_map]
  exact List.map_id _

/-! ## Scoring -/

/-- Findings as they are listed: no key comes twice, no confidence is too low, and all is in order. -/
structure Listed (minConfidence : α) (findings : List (Finding α)) : Prop where
  once : (findings.map Finding.key).Nodup
  confident : ∀ f ∈ findings, Arithmetic.le minConfidence f.confidence
  ordered : findings.Pairwise fun f g => (f.listingOrder g).isLE

/-- Findings that are listed already are listed the same way again. -/
theorem Listed.scoreGroup_eq {minConfidence : α} {findings : List (Finding α)}
    (listed : Listed minConfidence findings) : scoreGroup minConfidence findings = findings := by
  calc scoreGroup minConfidence findings
    _ = rank (findings.filter fun f => Arithmetic.le minConfidence f.confidence) := by
      rw [scoreGroup, deduplicate_of_nodup listed.once]
    _ = rank findings := by rw [List.filter_eq_self.mpr listed.confident]
    _ = findings := List.mergeSort_of_pairwise listed.ordered

variable [TransCmp (@Arithmetic.compareTotal α _)]

theorem scoreGroup_listed (minConfidence : α) (findings : List (Finding α)) :
    Listed minConfidence (scoreGroup minConfidence findings) := by
  refine ⟨?_, ?_, rank_pairwise _⟩
  · have left := (deduplicate_keys_nodup findings).sublist
      ((List.filter_sublist (p := fun f => Arithmetic.le minConfidence f.confidence)).map Finding.key)
    exact ((rank_perm _).map Finding.key).nodup_iff.mpr left
  · intro f member
    have kept := (rank_perm _).mem_iff.mp member
    exact (List.mem_filter.mp kept).2

/-- Scoring leaves exactly those findings of a category as they are that are listed already. -/
theorem scoreGroup_eq_self_iff {minConfidence : α} {findings : List (Finding α)} :
    scoreGroup minConfidence findings = findings ↔ Listed minConfidence findings := by
  constructor
  · intro same
    rw [← same]
    exact scoreGroup_listed minConfidence findings
  · exact Listed.scoreGroup_eq

/-- Scoring the listed findings again lists the same findings in the same order, side by side or not,
and merging what is merged changes nothing. -/
theorem scoreAll_idempotent (minConfidence : α) (findings : List (Finding α))
    (parallel parallel' : Bool) :
    (scoreAll minConfidence ((scoreAll minConfidence findings parallel).flatMap (·.2)) parallel').flatMap
          (·.2) =
        (scoreAll minConfidence findings parallel).flatMap (·.2) ∧
      deduplicate (deduplicate findings) = deduplicate findings := by
  refine ⟨?_, deduplicate_of_nodup (deduplicate_keys_nodup findings)⟩
  have again (c : Category) : scoreGroup minConfidence
      (((scoreAll minConfidence findings parallel).flatMap (·.2)).filter fun f => f.category = c) =
        scoreGroup minConfidence (findings.filter fun f => f.category = c) := by
    rw [scoreAll_filter]
    exact scoreGroup_eq_self_iff.mpr (scoreGroup_listed minConfidence _)
  rw [scoreAll_findings, List.flatMap_congr fun c _ => again c, ← scoreAll_findings]

/-- Findings of two categories, some of them with one key, whose confidences are no number, the two zeros
and one that is too low. -/
def unevenFindings : List (Finding Float) :=
  [⟨.xpc, .procedure "main", 32, none, "undefined", ["beacon", "shell"], 0.0 / 0.0, ["line 2"]⟩,
    ⟨.c2, .whole, 8, none, "negative zero", ["beacon"], -0.0, ["line 5", "line 4"]⟩,
    ⟨.xpc, .procedure "main", 16, some "tied", "strong", ["shell", "beacon"], 0.75, ["line 1"]⟩,
    ⟨.c2, .procedure "main", 8, none, "zero", ["beacon"], 0.0, []⟩,
    ⟨.c2, .procedure "main", 8, none, "low", ["shell"], -0.5, []⟩]

theorem scoreAll_idempotent_uneven :
    TransCmp (@Arithmetic.compareTotal Float _) ∧
      (scoreAll 0 ((scoreAll 0 unevenFindings true).flatMap (·.2)) false).flatMap (·.2) =
          (scoreAll 0 unevenFindings true).flatMap (·.2) ∧
        deduplicate (deduplicate unevenFindings) = deduplicate unevenFindings :=
  ⟨inferInstance, scoreAll_idempotent 0 unevenFindings true false⟩

end TechniqueScan
