import TechniqueScan.Proofs.Catalogue.Registry
import TechniqueScan.Proofs.Confidence
import TechniqueScan.Proofs.Correlation.Findings

/-!
Fusing evidence never lowers confidence. What is combined is kept on the grid of confidences, grows with
the evidence and does not depend on its order; so a finding on several signatures is worth no less than a
finding on any one of them alone.
-/

namespace TechniqueScan

/-! ## Weights -/

/-- What combining some weights, with a boost or without, keeps to. -/
structure Fuses (weights : List Rat) (boost : Rat) : Prop where
  combined : InTenThousandths (combineWeights weights)
  boosted : InTenThousandths (confidenceFor weights boost)
  grows : ∀ before w after, weights = before ++ after →
    combineWeights weights ≤ combineWeights (before ++ w :: after)
  reordered : ∀ others, weights.Perm others → combineWeights others = combineWeights weights
  boost_le : confidenceFor weights 0 ≤ confidenceFor weights boost
  part_le : ∀ part : List Rat, part.Sublist weights →
    combineWeights part ≤ confidenceFor weights boost
  single_le : ∀ w ∈ weights, combineWeights [w] ≤ confidenceFor weights boost

theorem fuses (weights : List Rat) (boost : Rat) : Fuses weights boost where
  combined := combineWeights_inTenThousandths weights
  boosted := confidenceFor_inTenThousandths weights boost
  grows := by
    rintro before w after rfl
    exact combineWeights_le_of_sublist ((List.sublist_cons_self w after).append_left before)
  reordered _ := combineWeights_of_perm
  boost_le := by
    rw [confidenceFor_zero]
    exact combineWeights_le_confidenceFor (List.Sublist.refl weights) boost
  part_le _ sub := combineWeights_le_confidenceFor sub boost
  single_le _ member := combineWeights_le_confidenceFor (List.singleton_sublist.mpr member) boost

/-! ## Findings -/

variable {α : Type} [Arithmetic α] (registry : Registry α)

theorem findingOf_single_confidence (m : FactModel) (site : Site) (x : RawMatch) :
    (findingOf registry m site none [x]).confidence =
      confidenceFor [Contribution.weight ⟨x.signatureId, registry.signature? x.signatureId⟩]
        (Arithmetic.ofNat 0) := by
  rw [findingOf, contributions_single]
  rfl

theorem correlate_findings_made (m : FactModel) (raw : List RawMatch) {f : Finding α}
    (member : f ∈ (correlate registry m raw).findings) :
    ∃ site rule members, f = findingOf registry m site rule members := by
  rw [correlate_findings_eq, List.mem_flatMap] at member
  obtain ⟨site, _, member⟩ := member
  rcases correlateAt_cases registry m site member with ⟨r, _, rfl, _⟩ | ⟨x, _, _, rfl, _⟩
  · exact ⟨site, some r, _, rfl⟩
  · exact ⟨site, none, [x], rfl⟩

/-- A finding is worth no less than one on a signature of its own alone would be. -/
theorem single_le_findingOf (registry : Registry Rat) (m : FactModel) (site : Site)
    (rule : Option (Rule Rat)) (members : List RawMatch) {x : RawMatch}
    (part : x.signatureId ∈ (findingOf registry m site rule members).signatures) (site' : Site) :
    (findingOf registry m site' none [x]).confidence ≤
      (findingOf registry m site rule members).confidence := by
  obtain ⟨y, inside, same⟩ := (mem_findingOf_signatures ..).mp part
  have listed : (⟨x.signatureId, registry.signature? x.signatureId⟩ : Contribution Rat) ∈
      contributions registry members :=
    (mem_contributions registry).mpr ⟨y, inside, by rw [same]⟩
  have weighs := List.mem_map_of_mem (f := Contribution.weight) listed
  have none : (Arithmetic.ofNat 0 : Rat) = 0 := Nat.cast_zero
  rw [findingOf_single_confidence, none, confidenceFor_zero]
  exact combineWeights_le_confidenceFor (List.singleton_sublist.mpr weighs) _

/-- Whatever evidence is fused, and however a finding is tied together, no part of it alone would be worth
more. -/
theorem correlate_fuses :
    (∀ weights boost, Fuses weights boost) ∧
      ∀ (registry : Registry Rat) (m : FactModel) (raw : List RawMatch),
        ∀ f ∈ (correlate registry m raw).findings, ∀ x : RawMatch, x.signatureId ∈ f.signatures →
          ∀ site, (findingOf registry m site none [x]).confidence ≤ f.confidence := by
  refine ⟨fuses, ?_⟩
  intro registry m raw f member x part site'
  obtain ⟨site, rule, members, rfl⟩ := correlate_findings_made registry m raw member
  exact single_le_findingOf registry m site rule members part site'

/-- Matches of both signatures that the rule of the small catalogue ties. -/
def denyAndProbe : List RawMatch :=
  [⟨"deny", .antiDebug, ⟨.procedure "main", 12⟩, [0]⟩,
    ⟨"probe", .antiDebug, ⟨.procedure "main", 16⟩, [1]⟩]

theorem denyAndProbe_tied (m : FactModel) :
    ∃ f ∈ (correlate Registry.debuggerRegistry m denyAndProbe).findings,
      "deny" ∈ f.signatures ∧ "probe" ∈ f.signatures := by
  have consistent := Registry.debuggerRegistry_accepted.consistent
  have listed : ∀ r ∈ Registry.debuggerRegistry.rules, r = Registry.debuggerDraft.rules[0] := by
    intro r declared
    exact List.mem_singleton.mp declared
  have candidate : Candidate Registry.debuggerRegistry denyAndProbe ⟨.procedure "main", .antiDebug⟩
      Registry.debuggerDraft.rules[0] := by
    refine ⟨List.mem_singleton_self _, rfl, rfl, ?_⟩
    rintro id (_ | ⟨_, _ | ⟨_, ⟨⟩⟩⟩)
    · exact ⟨denyAndProbe[0], List.mem_cons_self, rfl, rfl⟩
    · exact ⟨denyAndProbe[1], List.mem_cons_of_mem _ List.mem_cons_self, rfl, rfl⟩
  have fired : Registry.debuggerDraft.rules[0] ∈ (selectionAt Registry.debuggerRegistry
      ⟨.procedure "main", .antiDebug⟩ (matchesAt denyAndProbe ⟨.procedure "main", .antiDebug⟩)).fired := by
    refine ((consistent.selectionAt_chosen _ _).choice.fires_iff _
      ((mem_consideredAt _ _ _ _).mpr candidate)).mpr ?_
    intro k fired before _
    rw [listed k (consistent.fired_candidate _ _ fired).declared] at before
    exact consistent.consideredBefore_asymm _ _ before before
  have ties := consistent.mem_fired_signatures m _ denyAndProbe fired
  exact ⟨_, (consistent.mem_correlate m).mpr (correlateAt_of_fired Registry.debuggerRegistry m _ fired),
    (ties "deny").mpr (by decide), (ties "probe").mpr (by decide)⟩

/-- Weights within the unit interval and on both sides of it. -/
def straddlingWeights : List Rat := [4 / 5, -1, 2]

theorem correlate_fuses_debugger :
    combineWeights straddlingWeights ≤ combineWeights ([4 / 5] ++ (1 / 2 : Rat) :: [-1, 2]) ∧
      (straddlingWeights.Perm [2, -1, 4 / 5] ∧
        combineWeights ([2, -1, 4 / 5] : List Rat) = combineWeights straddlingWeights) ∧
      (([4 / 5, 2] : List Rat).Sublist straddlingWeights ∧
        combineWeights ([4 / 5, 2] : List Rat) ≤ confidenceFor straddlingWeights (1 / 10)) ∧
      (-1 ∈ straddlingWeights ∧
        combineWeights ([-1] : List Rat) ≤ confidenceFor straddlingWeights (1 / 10)) ∧
      ∃ f ∈ (correlate Registry.debuggerRegistry (.ofFacts "sample" []) denyAndProbe).findings,
        ∀ x ∈ denyAndProbe, x.signatureId ∈ f.signatures ∧
          ∀ site, (findingOf Registry.debuggerRegistry (.ofFacts "sample" []) site none [x]).confidence ≤
            f.confidence := by
  obtain ⟨weights, findings⟩ := correlate_fuses
  have fused := weights straddlingWeights (1 / 10)
  have perm : straddlingWeights.Perm [2, -1, 4 / 5] := (List.reverse_perm _).symm
  have sub : ([4 / 5, 2] : List Rat).Sublist straddlingWeights :=
    (List.sublist_cons_self (-1) [2]).cons_cons (4 / 5)
  have member : -1 ∈ straddlingWeights := List.mem_cons_of_mem _ List.mem_cons_self
  refine ⟨fused.grows [4 / 5] (1 / 2) [-1, 2] rfl, ⟨perm, fused.reordered _ perm⟩,
    ⟨sub, fused.part_le _ sub⟩, ⟨member, fused.single_le _ member⟩, ?_⟩
  obtain ⟨f, made, deny, probe⟩ := denyAndProbe_tied (.ofFacts "sample" [])
  refine ⟨f, made, List.forall_mem_cons.mpr ⟨?_, List.forall_mem_singleton.mpr ?_⟩⟩
  · exact ⟨deny, findings _ _ _ f made denyAndProbe[0] deny⟩
  · exact ⟨probe, findings _ _ _ f made denyAndProbe[1] probe⟩

end TechniqueScan
