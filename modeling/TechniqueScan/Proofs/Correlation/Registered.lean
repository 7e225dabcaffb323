import TechniqueScan.Proofs.Correlation.Categories

/-!
Findings on registered signatures. Where the signatures of some matches are registered, their finding
rests on the registered signatures that hit, in catalogue order.
-/

namespace TechniqueScan

open Std (LawfulEqOrd TransCmp)

variable {α : Type}

namespace Contribution

/-- Catalogue order as a comparison. -/
def catalogueOrder : Contribution α → Contribution α → Ordering :=
  compareLex (compareOn fun p => p.signature.isNone)
    (compareLex (compareOn fun p => (p.signature.map (·.order)).getD 0) (compareOn (·.id)))

instance : TransCmp (@catalogueOrder α) :=
  inferInstanceAs <| TransCmp (compareLex (compareOn fun p : Contribution α => p.signature.isNone)
    (compareLex (compareOn fun p => (p.signature.map (·.order)).getD 0) (compareOn (·.id))))

theorem precedes_eq (p q : Contribution α) : p.precedes q = (p.catalogueOrder q).isLE := by
  obtain ⟨id, first⟩ := p
  obtain ⟨id', second⟩ := q
  cases first with
  | none => cases second <;> rfl
  | some s =>
    cases second with
    | none => rfl
    | some t =>
      simp only [precedes, catalogueOrder, compareLex, compareOn, Option.map_some, Option.getD_some,
        Option.isNone_some, Std.ReflCmp.compare_self, Ordering.eq_then]
      rcases Nat.lt_trichotomy s.order t.order with before | same | after
      · simp [before, Nat.compare_eq_lt.mpr before]
      · simp [same]
      · simp [Nat.compare_eq_gt.mpr after, after.ne', after.le]

theorem mergeSort_pairwise (parts : List (Contribution α)) :
    (parts.mergeSort precedes).Pairwise fun p q => p.precedes q := by
  have order : (precedes : Contribution α → _ → _) = fun p q => (p.catalogueOrder q).isLE :=
    funext fun p => funext fun q => precedes_eq p q
  rw [order]
  exact mergeSort_pairwise_isLE catalogueOrder parts

theorem id_eq_of_catalogueOrder {p q : Contribution α} (undecided : p.catalogueOrder q = .eq) :
    p.id = q.id := by
  obtain ⟨_, later⟩ := Ordering.then_eq_eq.mp undecided
  exact LawfulEqOrd.eq_of_compare (Ordering.then_eq_eq.mp later).2

end Contribution

/-- The signatures of a category that some matches are of, in catalogue order. -/
def Registry.matchedIn (registry : Registry α) (c : Category) (members : List RawMatch) :
    List (Signature α) :=
  (registry.signaturesFor c).filter fun s => members.any fun x => x.signatureId = s.id

theorem Registry.mem_matchedIn {registry : Registry α} {c : Category} {members : List RawMatch}
    {s : Signature α} :
    s ∈ registry.matchedIn c members ↔
      s ∈ registry.signaturesFor c ∧ ∃ x ∈ members, x.signatureId = s.id := by
  simp [Registry.matchedIn]

variable [Arithmetic α]

namespace Registry.Consistent

variable {registry : Registry α} (consistent : registry.Consistent) {c : Category}
  {members : List RawMatch}

include consistent

theorem signature?_of_listed {s : Signature α} (listed : s ∈ registry.signaturesFor c) :
    registry.signature? s.id = some s :=
  consistent.signature?_eq (List.mem_filter.mp listed).1

theorem matchedIn_precedes :
    ((registry.matchedIn c members).map fun s => (⟨s.id, some s⟩ : Contribution α)).Pairwise
      fun p q => p.precedes q := by
  refine List.pairwise_map.mpr (((consistent.signaturesFor_ascends c).filter _).imp ?_)
  intro s t before
  simp [Contribution.precedes, before]

theorem contributions_perm (known : registry.Knows c members) :
    (contributions registry members).Perm
      ((registry.matchedIn c members).map fun s => ⟨s.id, some s⟩) := by
  refine (List.mergeSort_perm _ _).trans ((List.perm_ext_iff_of_nodup ?_ ?_).mpr ?_)
  · refine (ascending_nodup _).map ?_
    intro id id' same
    exact congrArg Contribution.id same
  · refine ((List.Nodup.of_map _ (consistent.signaturesFor_ids c)).filter _).map ?_
    intro s t same
    exact Option.some.inj (congrArg Contribution.signature same)
  · intro p
    simp only [List.mem_map, mem_ascending, Registry.mem_matchedIn]
    constructor
    · rintro ⟨_, ⟨x, inside, rfl⟩, rfl⟩
      obtain ⟨s, listed, same⟩ := known x inside
      exact ⟨s, ⟨listed, x, inside, same.symm⟩, by rw [← same, consistent.signature?_of_listed listed]⟩
    · rintro ⟨s, ⟨listed, x, inside, same⟩, rfl⟩
      exact ⟨s.id, ⟨x, inside, same⟩, by rw [consistent.signature?_of_listed listed]⟩

/-- Matches of registered signatures contribute these signatures, in catalogue order. -/
theorem contributions_eq (known : registry.Knows c members) :
    contributions registry members = (registry.matchedIn c members).map fun s => ⟨s.id, some s⟩ := by
  refine List.Perm.eq_of_pairwise ?_ (Contribution.mergeSort_pairwise _) consistent.matchedIn_precedes
    (consistent.contributions_perm known)
  -- Two contributions that precede each other have one identifier, and it resolves in one way.
  intro p q left right forth back
  rw [Contribution.precedes_eq] at forth back
  have same := Contribution.id_eq_of_catalogueOrder (Std.OrientedCmp.isLE_antisymm forth back)
  obtain ⟨id, _, rfl⟩ := List.mem_map.mp (List.mem_mergeSort.mp left)
  obtain ⟨s, listed, rfl⟩ := List.mem_map.mp right
  obtain rfl : id = s.id := same
  rw [consistent.signature?_of_listed (Registry.mem_matchedIn.mp listed).1]

section

variable (m : FactModel) (site : Site) (rule : Option (Rule α)) (known : registry.Knows c members)

include known

theorem findingOf_signatures_eq :
    (findingOf registry m site rule members).signatures = (registry.matchedIn c members).map (·.id) := by
  rw [findingOf_signatures, consistent.contributions_eq known, List.map_map]
  rfl

theorem findingOf_confidence :
    (findingOf registry m site rule members).confidence =
      confidenceFor ((registry.matchedIn c members).map (·.weight))
        ((rule.map (·.boost)).getD (Arithmetic.ofNat 0)) := by
  have weights : (contributions registry members).map (·.weight) =
      (registry.matchedIn c members).map (·.weight) := by
    rw [consistent.contributions_eq known, List.map_map]
    rfl
  rw [← weights]
  rfl

end

end Registry.Consistent

/-! ## Confidences -/

/-- The confidence in what a rule ties together. -/
def Registry.ruleConfidence (registry : Registry α) (r : Rule α) : α :=
  confidenceFor (((registry.signaturesFor r.category).filter fun s => s.id ∈ r.signatures).map (·.weight))
    r.boost

namespace Registry.Consistent

variable {registry : Registry α} (consistent : registry.Consistent) (m : FactModel) (site : Site)

include consistent

theorem fired_known (raw : List RawMatch) {r : Rule α}
    (fired : r ∈ (selectionAt registry site (matchesAt raw site)).fired) :
    registry.Knows r.category ((matchesAt raw site).filter fun x => x.signatureId ∈ r.signatures) := by
  have declared := (consistent.fired_candidate site raw fired).declared
  intro x inside
  obtain ⟨s, member, same, own⟩ :=
    consistent.resolved r declared _ (of_decide_eq_true (List.mem_filter.mp inside).2)
  exact ⟨s, List.mem_filter.mpr ⟨member, decide_eq_true own⟩, same⟩

theorem fired_matchedIn (raw : List RawMatch) {r : Rule α}
    (fired : r ∈ (selectionAt registry site (matchesAt raw site)).fired) :
    registry.matchedIn r.category ((matchesAt raw site).filter fun x => x.signatureId ∈ r.signatures) =
      (registry.signaturesFor r.category).filter fun s => s.id ∈ r.signatures := by
  refine List.filter_congr fun s _ => ?_
  rw [Bool.eq_iff_iff, List.any_eq_true, decide_eq_true_iff,
    ← consistent.exists_fired_member_iff site raw fired]
  simp only [decide_eq_true_eq]

/-- The confidence in the finding of a rule that fires is settled by the registry. -/
theorem fired_confidence (raw : List RawMatch) {r : Rule α}
    (fired : r ∈ (selectionAt registry site (matchesAt raw site)).fired) :
    (findingOf registry m site (some r)
        ((matchesAt raw site).filter fun x => x.signatureId ∈ r.signatures)).confidence =
      registry.ruleConfidence r := by
  rw [consistent.findingOf_confidence m site (some r) (consistent.fired_known site raw fired),
    consistent.fired_matchedIn site raw fired]
  rfl

theorem single_confidence {c : Category} {s : Signature α} (listed : s ∈ registry.signaturesFor c)
    {x : RawMatch} (same : s.id = x.signatureId) :
    (findingOf registry m site none [x]).confidence =
      confidenceFor [s.weight] (Arithmetic.ofNat 0) := by
  have known : registry.Knows c [x] := by
    intro y only
    rw [List.mem_singleton.mp only]
    exact ⟨s, listed, same⟩
  have matched : registry.matchedIn c [x] = [s] := by
    refine filter_eq_singleton (consistent.signaturesFor_ids c) listed ?_ ?_
    · simp [same]
    · intro t _ own
      simpa [same, eq_comm] using own
  rw [consistent.findingOf_confidence m site none known, matched]
  rfl

end Registry.Consistent

/-! ## Well-formed findings -/

/-- A finding on registered signatures of its category, tied together by a rule if there are several. -/
structure Finding.WellFormed (registry : Registry α) (f : Finding α) : Prop where
  signatures_ne_nil : f.signatures ≠ []
  signatures_nodup : f.signatures.Nodup
  /-- The signatures are listed as the registry lists them. -/
  registryOrder : f.signatures.Sublist (registry.signatures.map (·.id))
  resolved : ∀ id ∈ f.signatures, ∃ s, registry.signature? id = some s ∧ s.category = f.category
  rule_isSome_iff : f.rule.isSome ↔ 2 ≤ f.signatures.length
  rule_registered : ∀ id, f.rule = some id → ∃ r ∈ registry.rules, r.id = id ∧
    r.category = f.category ∧ ∀ signature, signature ∈ f.signatures ↔ signature ∈ r.signatures

omit [Arithmetic α] in
theorem Finding.WellFormed.of_agrees {registry : Registry α} {f g : Finding α}
    (formed : f.WellFormed registry) (agrees : f.Agrees g) (category : f.category = g.category) :
    g.WellFormed registry := by
  obtain ⟨filled, once, order, resolved, tied, registered⟩ := formed
  rw [agrees.signatures] at filled once order resolved tied registered
  rw [agrees.rule] at tied registered
  rw [category] at resolved registered
  exact ⟨filled, once, order, resolved, tied, registered⟩

theorem findingOf_single_signatures (registry : Registry α) (m : FactModel) (site : Site)
    (rule : Option (Rule α)) (x : RawMatch) :
    (findingOf registry m site rule [x]).signatures = [x.signatureId] := by
  rw [findingOf_signatures, contributions_single]
  rfl

namespace Registry.Consistent

variable {registry : Registry α} (consistent : registry.Consistent) (m : FactModel)
  (raw : List RawMatch) (site : Site) {f : Finding α}
  (member : f ∈ (correlateAt registry m site (matchesAt raw site)).findings)

include consistent member

/-- A finding is tied together by a rule exactly if it rests on several signatures, and then they are
those of the rule. -/
theorem correlateAt_rule :
    (f.rule.isSome ↔ 2 ≤ f.signatures.length) ∧
      ∀ id, f.rule = some id → ∃ r ∈ registry.rules, r.id = id ∧ r.category = f.category ∧
        ∀ signature, signature ∈ f.signatures ↔ signature ∈ r.signatures := by
  rcases correlateAt_cases registry m site member with ⟨r, fired, rfl, _⟩ | ⟨x, _, _, rfl, _⟩
  · have candidate := consistent.fired_candidate site raw fired
    have validated := consistent.ruleValidated r candidate.declared
    have ties := consistent.mem_fired_signatures m site raw fired
    have perm := (List.perm_ext_iff_of_nodup (findingOf_signatures_nodup ..)
      validated.signatures_nodup).mpr ties
    constructor
    · rw [perm.length_eq]
      exact iff_of_true rfl validated.several
    · intro id same
      exact ⟨r, candidate.declared, Option.some.inj same, candidate.own, ties⟩
  · rw [findingOf_single_signatures]
    constructor
    · exact iff_of_false Bool.false_ne_true (by simp)
    · intro id same
      cases same

/-- The findings at a site are well formed where the signatures found there are registered. -/
theorem correlateAt_wellFormed (known : registry.Knows site.category (matchesAt raw site)) :
    f.WellFormed registry := by
  have own : f.category = site.category :=
    congrArg Site.category (correlateAt_findings_site registry m site _ f member)
  obtain ⟨rule, members, made, _, among⟩ := consistent.correlateAt_made m site raw member
  have signatures : f.signatures = (registry.matchedIn site.category members).map (·.id) := by
    rw [made, consistent.findingOf_signatures_eq m site rule fun x inside => known x (among x inside)]
  obtain ⟨tied, registered⟩ := consistent.correlateAt_rule m raw site member
  refine ⟨consistent.correlateAt_signatures_ne_nil m site raw member,
    correlateAt_signatures_nodup registry m site member, ?_, ?_, tied, registered⟩
  · rw [signatures]
    exact (List.filter_sublist.trans List.filter_sublist).map _
  · intro id listed
    rw [signatures] at listed
    obtain ⟨s, matched, rfl⟩ := List.mem_map.mp listed
    obtain ⟨declared, category⟩ := List.mem_filter.mp (Registry.mem_matchedIn.mp matched).1
    exact ⟨s, consistent.signature?_eq declared, (of_decide_eq_true category).trans own.symm⟩

/-- What is seen in no procedure is never tied together. -/
theorem correlateAt_whole (whole : site.scope = .whole) :
    ∃ x ∈ matchesAt raw site, f.signatures = [x.signatureId] := by
  rcases correlateAt_cases registry m site member with ⟨r, fired, _⟩ | ⟨x, here, _, rfl, _⟩
  · have inside := (consistent.fired_candidate site raw fired).inProcedure
    rw [whole] at inside
    cases inside
  · exact ⟨x, here, findingOf_single_signatures ..⟩

end Registry.Consistent

end TechniqueScan
