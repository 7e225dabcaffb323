import TechniqueScan.Proofs.Scan.Grounds

/-!
Signatures do not get in each other's way. What a signature hits does not depend on the signatures
that it is arranged with, nor on its position among them. Scanning for some of the signatures of a
registry therefore finds what scanning for all of them finds of those.
-/

namespace TechniqueScan

variable {α : Type} {binaryId : String} {facts : List Fact}

/-! ## One signature alone -/

/-- The position of a signature and the signatures around it have no part in what it hits. -/
theorem SignatureHit.alone_iff {m : FactModel} {signatures : List (Signature α)} {k : Nat}
    {s : Signature α} (listed : signatures[k]? = some s) (l : Location) (is : List Nat) :
    SignatureHit m signatures ⟨l, k, is⟩ ↔ SignatureHit m [s] ⟨l, 0, is⟩ := by
  constructor
  · intro found
    cases found with
    | single listed' clauses hit =>
      cases listed.symm.trans listed'
      exact .single rfl clauses hit
    | joint listed' several each ascends union lowest =>
      cases listed.symm.trans listed'
      exact .joint rfl several each ascends union lowest
  · intro found
    cases found with
    | single listed' clauses hit =>
      cases listed'
      exact .single listed clauses hit
    | joint listed' several each ascends union lowest =>
      cases listed'
      exact .joint listed several each ascends union lowest

/-- What a signature finds by itself. -/
def Signature.Finds (m : FactModel) (s : Signature α) (x : RawMatch) : Prop :=
  SignatureHit m [s] ⟨x.location, 0, x.facts⟩ ∧ x.signatureId = s.id ∧ x.category = s.category

namespace SignatureIndex

variable [Arithmetic α] {c : Category} {signatures : List (Signature α)}

/-- A scan for signatures of its category finds what each of them finds by itself. -/
theorem mem_scan_iff_finds (validated : ∀ s ∈ signatures, s.Validated)
    (own : ∀ s ∈ signatures, s.category = c) (x : RawMatch) :
    x ∈ (build c signatures).scan (.ofFacts binaryId facts) ↔
      ∃ s ∈ signatures, s.Finds (.ofFacts binaryId facts) x := by
  rw [mem_scan c validated]
  constructor
  · rintro ⟨⟨l, k, is⟩, found, s, listed, rfl⟩
    have member := List.mem_of_getElem? listed
    exact ⟨s, member, (SignatureHit.alone_iff listed l is).mp found, rfl, (own s member).symm⟩
  · rintro ⟨s, member, found, named, sameCategory⟩
    obtain ⟨k, listed⟩ := List.mem_iff_getElem?.mp member
    refine ⟨⟨x.location, k, x.facts⟩, (SignatureHit.alone_iff listed _ _).mpr found, s, listed, ?_⟩
    rw [← named, ← own s member, ← sameCategory]

/-- Signatures that are told apart by their identifiers are reported once for each hit. -/
theorem scan_nodup (validated : ∀ s ∈ signatures, s.Validated)
    (ids : (signatures.map (·.id)).Nodup) :
    ((build c signatures).scan (.ofFacts binaryId facts)).Nodup := by
  rw [scan]
  refine List.Nodup.map_on ?_ (ascending_nodup _)
  rintro ⟨l, k, is⟩ member ⟨l', k', is'⟩ member' same
  have exactly := mem_hits c (fun s member => (validated s member).filled)
    (fun s member => (validated s member).clauses_ne_nil) binaryId facts
  obtain ⟨s, listed⟩ := ((exactly _).mp member).listed
  obtain ⟨s', listed'⟩ := ((exactly _).mp member').listed
  simp only [RawMatch.mk.injEq, build, List.getElem?_toArray, List.getElem?_map, listed, listed',
    Option.map_some, Option.getD_some, true_and] at same
  obtain ⟨sameId, sameLocation, sameFacts⟩ := same
  -- Equal identifiers stand at equal positions.
  have bound : k < (signatures.map (·.id)).length := by
    simpa using (List.getElem?_eq_some_iff.mp listed).1
  have samePosition : k = k' := by
    refine (List.getElem?_inj bound ids).mp ?_
    rw [List.getElem?_map, List.getElem?_map, listed, listed', Option.map_some, Option.map_some, sameId]
  rw [sameLocation, samePosition, sameFacts]

omit [Arithmetic α] in
theorem scan_nothing (c : Category) (m : FactModel) :
    (build c ([] : List (Signature α))).scan m = [] := by
  simp [scan, hits, build, ascending, dropRepeats]

end SignatureIndex

/-! ## Some signatures of a list -/

theorem matchSignatures_eq (m : FactModel) (signatures : List (Signature α)) :
    matchSignatures m signatures =
      Category.all.flatMap fun c => (SignatureIndex.build c (signaturesOf signatures c)).scan m := by
  rw [matchSignatures]
  refine List.flatMap_congr fun c _ => ?_
  change _ = (SignatureIndex.build c (signatures.filter fun s => s.category = c)).scan m
  cases signatures.filter fun s => s.category = c with
  | nil => rw [SignatureIndex.scan_nothing]
  | cons s rest => rfl

variable [Arithmetic α] {signatures : List (Signature α)}

theorem mem_matchSignatures (validated : ∀ s ∈ signatures, s.Validated) (x : RawMatch) :
    x ∈ matchSignatures (.ofFacts binaryId facts) signatures ↔
      ∃ s ∈ signatures, s.Finds (.ofFacts binaryId facts) x := by
  have inCategory (c : Category) : x ∈ (SignatureIndex.build c (signaturesOf signatures c)).scan
      (.ofFacts binaryId facts) ↔ ∃ s ∈ signaturesOf signatures c, s.Finds (.ofFacts binaryId facts) x := by
    refine SignatureIndex.mem_scan_iff_finds ?_ ?_ x
    · exact fun s member => validated s (List.mem_filter.mp member).1
    · exact fun s member => by simpa using (List.mem_filter.mp member).2
  rw [matchSignatures_eq, List.mem_flatMap]
  constructor
  · rintro ⟨c, _, found⟩
    obtain ⟨s, member, finds⟩ := (inCategory c).mp found
    exact ⟨s, (List.mem_filter.mp member).1, finds⟩
  · rintro ⟨s, member, finds⟩
    refine ⟨s.category, Category.mem_all _, (inCategory _).mpr ⟨s, ?_, finds⟩⟩
    exact List.mem_filter.mpr ⟨member, by simp⟩

theorem matchSignatures_grounded (validated : ∀ s ∈ signatures, s.Validated) {x : RawMatch}
    (member : x ∈ matchSignatures (.ofFacts binaryId facts) signatures) :
    GroundedAt (.ofFacts binaryId facts) x.location x.facts := by
  obtain ⟨s, _, found, _, _⟩ := (mem_matchSignatures validated x).mp member
  exact found.grounded

theorem matchSignatures_nodup (validated : ∀ s ∈ signatures, s.Validated)
    (ids : (signatures.map (·.id)).Nodup) :
    (matchSignatures (.ofFacts binaryId facts) signatures).Nodup := by
  rw [matchSignatures_eq, List.nodup_flatMap]
  constructor
  · intro c _
    refine SignatureIndex.scan_nodup ?_ (ids.sublist (List.filter_sublist.map _))
    exact fun s member => validated s (List.mem_filter.mp member).1
  · refine Category.all_nodup.imp ?_
    intro c c' different x found found'
    obtain ⟨_, _, rfl⟩ := List.mem_map.mp found
    obtain ⟨_, _, same⟩ := List.mem_map.mp found'
    exact different (congrArg RawMatch.category same).symm

/-- Of signatures that are told apart, some find what all of them find of those. -/
theorem matchSignatures_subperm {selected : List (Signature α)}
    (validated : ∀ s ∈ signatures, s.Validated) (ids : (signatures.map (·.id)).Nodup)
    (chosen : selected.Subperm signatures) :
    (matchSignatures (.ofFacts binaryId facts) selected).Perm
      ((matchSignatures (.ofFacts binaryId facts) signatures).filter fun x =>
        x.signatureId ∈ selected.map (·.id)) := by
  have validatedSelected : ∀ s ∈ selected, s.Validated := fun s member =>
    validated s (chosen.subset member)
  have idsSelected : (selected.map (·.id)).Nodup := by
    obtain ⟨sublist, perm, inside⟩ := chosen
    exact (perm.map _).nodup (ids.sublist (inside.map _))
  refine (List.perm_ext_iff_of_nodup (matchSignatures_nodup validatedSelected idsSelected)
    ((matchSignatures_nodup validated ids).filter _)).mpr ?_
  intro x
  rw [List.mem_filter, mem_matchSignatures validated, mem_matchSignatures validatedSelected,
    decide_eq_true_iff]
  constructor
  · rintro ⟨s, member, finds⟩
    exact ⟨⟨s, chosen.subset member, finds⟩, finds.2.1 ▸ List.mem_map_of_mem member⟩
  · rintro ⟨⟨s, member, finds⟩, listed⟩
    -- The signature that found it is the one that is named, as no two share an identifier.
    obtain ⟨t, inSelected, same⟩ := List.mem_map.mp listed
    obtain rfl : t = s := List.inj_on_of_nodup_map ids (chosen.subset inSelected) member
      (same.trans finds.2.1)
    exact ⟨t, inSelected, finds⟩

namespace Registry

variable {registry : Registry α}

omit [Arithmetic α] in
theorem matchSignatures_eq_scans (registry : Registry α) (m : FactModel) :
    matchSignatures m registry.signatures = Category.all.flatMap fun c => registry.scan c m := by
  simp only [matchSignatures_eq, scan_eq]
  rfl

/-- Matching without a registry's arrangement finds what the registry finds, category by category.
For some of its signatures, in any order, it finds the matches of those. -/
theorem matchSignatures_agrees (accepted : registry.Accepted) (binaryId : String) (facts : List Fact) :
    matchSignatures (.ofFacts binaryId facts) registry.signatures =
        (Category.all.flatMap fun c => registry.scan c (.ofFacts binaryId facts)) ∧
      ∀ signatures : List (Signature α), signatures.Subperm registry.signatures →
        (matchSignatures (.ofFacts binaryId facts) signatures).Perm
          ((Category.all.flatMap fun c => registry.scan c (.ofFacts binaryId facts)).filter fun x =>
            x.signatureId ∈ signatures.map (·.id)) := by
  refine ⟨registry.matchSignatures_eq_scans _, ?_⟩
  intro signatures chosen
  rw [← registry.matchSignatures_eq_scans]
  exact matchSignatures_subperm accepted.consistent.validated accepted.consistent.ids chosen

theorem matchSignatures_agrees_debugger :
    debuggerRegistry.Accepted ∧
      matchSignatures (.ofFacts "sample" SignatureIndex.tracedMain) debuggerRegistry.signatures =
          (Category.all.flatMap fun c =>
            debuggerRegistry.scan c (.ofFacts "sample" SignatureIndex.tracedMain)) ∧
        (matchSignatures (.ofFacts "sample" SignatureIndex.tracedMain)
            debuggerRegistry.signatures.reverse.tail).Perm
          ((Category.all.flatMap fun c =>
            debuggerRegistry.scan c (.ofFacts "sample" SignatureIndex.tracedMain)).filter fun x =>
              x.signatureId ∈ ["deny"]) := by
  have ⟨whole, part⟩ := matchSignatures_agrees debuggerRegistry_accepted "sample" SignatureIndex.tracedMain
  refine ⟨debuggerRegistry_accepted, whole, part _ ?_⟩
  exact (List.tail_sublist _).subperm.trans (List.reverse_perm _).subperm

end Registry

end TechniqueScan
