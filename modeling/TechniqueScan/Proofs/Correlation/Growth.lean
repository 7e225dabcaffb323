import TechniqueScan.Proofs.Confidence
import TechniqueScan.Proofs.Correlation.Registered

/-!
Correlating further matches. A rule that fires goes on firing unless a rule that takes precedence now
fires in its place; whatever becomes of rules, a signature keeps its own weight.
-/

namespace TechniqueScan

variable {α : Type}

/-- Matches that repeat at every site the signatures which some matches show there. -/
def KeptIn (raw more : List RawMatch) : Prop :=
  ∀ x ∈ raw, ∃ x' ∈ more, x'.signatureId = x.signatureId ∧ x'.site = x.site

theorem Candidate.keeps {registry : Registry α} {raw more : List RawMatch} {site : Site} {r : Rule α}
    (candidate : Candidate registry raw site r) (kept : KeptIn raw more) :
    Candidate registry more site r := by
  refine { candidate with occur := ?_ }
  intro id listed
  obtain ⟨x, member, here, same⟩ := candidate.occur id listed
  obtain ⟨x', member', same', here'⟩ := kept x member
  exact ⟨x', member', here'.trans here, same'.trans same⟩

/-- A rule that gives way, where further matches are known, to one that did not fire before. -/
structure GivesWay [Arithmetic α] (registry : Registry α) (m : FactModel) (raw more : List RawMatch)
    (site : Site) (kept r : Rule α) (signature : String) : Prop where
  fires : kept ∈ (selectionAt registry site (matchesAt more site)).fired
  fresh : kept ∉ (selectionAt registry site (matchesAt raw site)).fired
  shared : signature ∈ r.signatures ∧ signature ∈ kept.signatures
  before : registry.ConsideredBefore kept r
  conflict : conflictOf site kept r signature ∈ (correlate registry m more).conflicts

namespace Registry.Consistent

variable [Arithmetic α] {registry : Registry α} (consistent : registry.Consistent) (m : FactModel)
  {raw more : List RawMatch} (kept : KeptIn raw more) (site : Site)

include consistent kept

theorem fires_or_givesWay {r : Rule α}
    (fired : r ∈ (selectionAt registry site (matchesAt raw site)).fired) :
    r ∈ (selectionAt registry site (matchesAt more site)).fired ∨
      ∃ k signature, GivesWay registry m raw more site k r signature := by
  have chosen := consistent.selectionAt_chosen more site
  have candidate := (consistent.fired_candidate site raw fired).keeps kept
  have considered := (mem_consideredAt registry more site r).mpr candidate
  by_cases again : r ∈ (selectionAt registry site (matchesAt more site)).fired
  · exact .inl again
  · have dropped := again
    rw [chosen.choice.fires_iff r considered] at dropped
    simp only [not_forall, not_not] at dropped
    obtain ⟨k, fires, before, signature, tied, shared⟩ := dropped
    refine .inr ⟨k, signature, fires, ?_, ⟨tied, shared⟩, before, ?_⟩
    · -- Rules that fire together share nothing.
      intro fired'
      have different : r ≠ k := fun same => again (same ▸ fires)
      exact (consistent.selectionAt_chosen raw site).disjoint.forall fired fired' different
        ⟨signature, tied, shared⟩
    · have conflict : conflictOf site k r signature ∈
          (correlateAt registry m site (matchesAt more site)).conflicts :=
        (chosen.mem_conflicts _).mpr ⟨r, considered, k, fires, before, signature, tied, shared, rfl⟩
      rw [← consistent.correlate_conflicts] at conflict
      exact (List.mem_filter.mp conflict).1

end Registry.Consistent

/-! ## Confidences -/

namespace Registry.Consistent

variable {registry : Registry Rat} (consistent : registry.Consistent) (m : FactModel)
  {raw more : List RawMatch} {site : Site}

include consistent

/-- A registered signature that is found somewhere is part of a finding that is worth no less than the
signature alone. -/
theorem weight_le_confidence (known : registry.Knows site.category (matchesAt more site)) {x : RawMatch}
    (here : x ∈ matchesAt more site) {s : Signature Rat} (listed : s ∈ registry.signaturesFor site.category)
    (same : s.id = x.signatureId) :
    ∃ g ∈ (correlateAt registry m site (matchesAt more site)).findings,
      combineWeights [s.weight] ≤ g.confidence := by
  obtain ⟨rule, members, member, inside, among⟩ := correlateAt_covers registry m site here
  refine ⟨_, member, ?_⟩
  rw [consistent.findingOf_confidence m site rule fun y part => known y (among y part)]
  have matched := Registry.mem_matchedIn.mpr ⟨listed, x, inside, same.symm⟩
  exact combineWeights_le_confidenceFor
    (List.singleton_sublist.mpr (List.mem_map_of_mem (f := Signature.weight) matched)) _

/-- Where further matches are known, a finding is matched by one of no less confidence unless its rule
gives way. -/
theorem confidence_keeps (m' : FactModel) (kept : KeptIn raw more)
    (known : registry.Knows site.category (matchesAt more site)) {f : Finding Rat}
    (member : f ∈ (correlateAt registry m site (matchesAt raw site)).findings) :
    (∃ g ∈ (correlateAt registry m' site (matchesAt more site)).findings, f.confidence ≤ g.confidence) ∨
      ∃ r ∈ registry.rules, f.rule = some r.id ∧ (∀ id, id ∈ f.signatures ↔ id ∈ r.signatures) ∧
        ∃ k signature, GivesWay registry m' raw more site k r signature := by
  rcases correlateAt_cases registry m site member with ⟨r, fired, rfl, _⟩ | ⟨x, here, _, rfl, _⟩
  · rcases consistent.fires_or_givesWay m' kept site fired with again | givesWay
    · refine .inl ⟨_, correlateAt_of_fired registry m' site again, ?_⟩
      rw [consistent.fired_confidence m site raw fired, consistent.fired_confidence m' site more again]
    · exact .inr ⟨r, (consistent.fired_candidate site raw fired).declared, rfl,
        consistent.mem_fired_signatures m site raw fired, givesWay⟩
  · obtain ⟨found, site'⟩ := (mem_matchesAt raw site x).mp here
    obtain ⟨x', found', same, here'⟩ := kept x found
    have inside := (mem_matchesAt more site x').mpr ⟨found', here'.trans site'⟩
    obtain ⟨s, listed, own⟩ := known x' inside
    obtain ⟨g, left, atLeast⟩ := consistent.weight_le_confidence m' known inside listed own
    refine .inl ⟨g, left, ?_⟩
    rw [consistent.single_confidence m site listed (own.trans same)]
    exact atLeast

end Registry.Consistent

end TechniqueScan
