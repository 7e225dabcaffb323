import TechniqueScan.Proofs.Catalogue.Registry
import TechniqueScan.Proofs.Scan.Exact

/-!
What a match stands on. Every fact that a hit lists is a fact of its scope, and its address is the
lowest among them; what is found in no procedure is of a signature with one clause.
-/

namespace TechniqueScan

/-- Facts that all lie in the scope of a place, whose address is the lowest among theirs. -/
structure GroundedAt (m : FactModel) (l : Location) (is : List Nat) : Prop where
  present : ∀ i ∈ is, ∃ f, m.fact? i = some f ∧ f.scope = l.scope
  lowest : LowestAddress m is l.address

variable {α : Type} {binaryId : String} {facts : List Fact}

theorem GroundedAt.single {m : FactModel} {i : Nat} {f : Fact} (found : m.fact? i = some f) :
    GroundedAt m f.location [i] := by
  refine ⟨?_, ⟨i, List.mem_singleton_self i, f, found, rfl⟩, ?_⟩
  · intro j member
    rw [List.mem_singleton.mp member]
    exact ⟨f, found, rfl⟩
  · intro j member g found'
    rw [List.mem_singleton.mp member, found] at found'
    cases found'
    exact UInt64.le_refl _

/-- The indices that a hit names fit into 32 bits, unless the model holds too many facts. -/
theorem GroundedAt.fits {m : FactModel} {l : Location} {is : List Nat} (grounded : GroundedAt m l is)
    (few : m.size ≤ UInt32.size) : ∀ i ∈ is, i.toUInt32.toNat = i := by
  intro i listed
  obtain ⟨f, found, _⟩ := grounded.present i listed
  exact FactModel.index_fits few found

/-- A run of instructions lies in its procedure, from the address of the first one on. -/
theorem GroundedAt.run {procedure : String} {i : Nat} {is : List Nat} {f : Fact}
    (consecutive : i :: is <:+: (FactModel.ofFacts binaryId facts).instructionsOf procedure)
    (first : (FactModel.ofFacts binaryId facts).fact? i = some f) :
    GroundedAt (.ofFacts binaryId facts) ⟨.procedure procedure, f.location.address⟩ (i :: is) := by
  have seen {j : Nat} (member : j ∈ i :: is) : ∃ g, (FactModel.ofFacts binaryId facts).fact? j = some g ∧
      g.scope = .procedure procedure := by
    obtain ⟨g, found, _, own⟩ :=
      (FactModel.mem_instructionsOf _ procedure j).mp (consecutive.subset member)
    exact ⟨g, found, own⟩
  refine ⟨fun j => seen, ⟨i, List.mem_cons_self, f, first, rfl⟩, ?_⟩
  -- A run lists instructions in ascending order, so none of them lies before the first one.
  intro j member g found
  have ascends := (FactModel.instructionsOf_ascends (.ofFacts binaryId facts) procedure).sublist
    consecutive.sublist
  have notBefore : i ≤ j := by
    rcases List.mem_cons.mp member with rfl | later
    · exact Nat.le_refl _
    · exact Nat.le_of_lt ((List.pairwise_cons.mp ascends).1 j later)
  obtain ⟨f', found', own⟩ := seen List.mem_cons_self
  obtain ⟨g', found'', own'⟩ := seen member
  rw [first] at found'
  rw [found] at found''
  cases found'
  cases found''
  exact FactModel.address_le_of_index_le first found notBefore (own.trans own'.symm)

theorem PatternHit.grounded {p : Pattern} {l : Location} {is : List Nat}
    (hit : PatternHit (.ofFacts binaryId facts) p l is) : GroundedAt (.ofFacts binaryId facts) l is := by
  cases hit with
  | fact found _ => exact .single found
  | run consecutive _ first => exact .run consecutive first

theorem SignatureHit.grounded {signatures : List (Signature α)} {hit : Hit}
    (found : SignatureHit (.ofFacts binaryId facts) signatures hit) :
    GroundedAt (.ofFacts binaryId facts) hit.location hit.facts := by
  cases found with
  | single _ _ hit => exact hit.grounded
  | @joint k s procedure address is _ _ _ _ union lowest =>
    refine ⟨?_, lowest⟩
    intro i member
    obtain ⟨p, _, l, is', hit, inside, listed⟩ := (union i).mp member
    obtain ⟨f, found, own⟩ := hit.grounded.present i listed
    exact ⟨f, found, own.trans inside⟩

/-- Signatures of several clauses hit in procedures only. -/
theorem SignatureHit.single_of_whole {m : FactModel} {signatures : List (Signature α)} {hit : Hit}
    (found : SignatureHit m signatures hit) (whole : hit.location.scope = .whole) {s : Signature α}
    (listed : signatures[hit.signature]? = some s) : s.clauses.length = 1 := by
  cases found with
  | single listed' clauses _ =>
    cases listed.symm.trans listed'
    rw [clauses]
    rfl
  | joint => cases whole

/-- A scan for validated signatures reports the hits that they have without any arrangement. -/
theorem SignatureIndex.mem_scan [Arithmetic α] (c : Category) {signatures : List (Signature α)}
    (validated : ∀ s ∈ signatures, s.Validated) (x : RawMatch) :
    x ∈ (build c signatures).scan (.ofFacts binaryId facts) ↔
      ∃ hit, SignatureHit (.ofFacts binaryId facts) signatures hit ∧ Reports c signatures hit x := by
  have exactly := mem_hits c (fun s member => (validated s member).filled)
    (fun s member => (validated s member).clauses_ne_nil) binaryId facts
  rw [scan, List.mem_map]
  refine exists_congr fun hit => ?_
  rw [exactly]
  refine and_congr_right fun found => ?_
  obtain ⟨s, listed⟩ := found.listed
  simp [Reports, build, listed, eq_comm]

namespace Registry.Consistent

variable [Arithmetic α] {registry : Registry α} (consistent : registry.Consistent)

include consistent

/-- A scan for a category finds the hits of its signatures. -/
theorem mem_scan (c : Category) (x : RawMatch) :
    x ∈ registry.scan c (.ofFacts binaryId facts) ↔
      ∃ hit, SignatureHit (.ofFacts binaryId facts) (registry.signaturesFor c) hit ∧
        SignatureIndex.Reports c (registry.signaturesFor c) hit x := by
  rw [scan_eq]
  exact SignatureIndex.mem_scan c
    (fun s member => consistent.validated s (List.mem_filter.mp member).1) x

theorem scan_grounded {c : Category} {x : RawMatch}
    (member : x ∈ registry.scan c (.ofFacts binaryId facts)) :
    GroundedAt (.ofFacts binaryId facts) x.location x.facts := by
  obtain ⟨hit, found, s, _, rfl⟩ := (consistent.mem_scan c x).mp member
  exact found.grounded

/-- What is found in no procedure is of a signature of the category with one clause. -/
theorem scan_whole {c : Category} {x : RawMatch}
    (member : x ∈ registry.scan c (.ofFacts binaryId facts)) (whole : x.location.scope = .whole) :
    ∃ s ∈ registry.signaturesFor c, s.id = x.signatureId ∧ s.clauses.length = 1 := by
  obtain ⟨hit, found, s, listed, rfl⟩ := (consistent.mem_scan c x).mp member
  exact ⟨s, List.mem_of_getElem? listed, rfl, found.single_of_whole whole listed⟩

/-- A signature that asks for a single fact is found exactly in the scopes of the facts it accepts. -/
theorem occurs_iff {c : Category} {s : Signature α} (listed : s ∈ registry.signaturesFor c) {p : Pattern}
    (clauses : s.clauses = [p]) (noWindow : ∀ steps, p ≠ .window steps) (scope : Scope) :
    (∃ x ∈ registry.scan c (.ofFacts binaryId facts), x.site = ⟨scope, c⟩ ∧ x.signatureId = s.id) ↔
      ∃ f ∈ facts.map Fact.normal, p.accepts f ∧ f.scope = scope := by
  have seen (f : Fact) : f ∈ facts.map Fact.normal ↔
      ∃ i, (FactModel.ofFacts binaryId facts).fact? i = some f := by
    rw [← FactModel.mem_ofFacts binaryId]
    exact Array.mem_iff_getElem?
  constructor
  · rintro ⟨x, member, site, same⟩
    obtain ⟨hit, found, t, placed, rfl⟩ := (consistent.mem_scan c x).mp member
    obtain rfl : t = s := List.inj_on_of_nodup_map (consistent.signaturesFor_ids c)
      (List.mem_of_getElem? placed) listed same
    cases found with
    | single placed' clauses' hit =>
      cases placed.symm.trans placed'
      cases clauses.symm.trans clauses'
      cases hit with
      | fact found accepted => exact ⟨_, (seen _).mpr ⟨_, found⟩, accepted, congrArg Site.scope site⟩
      | run => exact (noWindow _ rfl).elim
    | joint placed' several =>
      cases placed.symm.trans placed'
      simp [Signature.isMultiClause, clauses] at several
  · rintro ⟨f, member, accepted, rfl⟩
    obtain ⟨i, found⟩ := (seen f).mp member
    obtain ⟨k, placed⟩ := List.mem_iff_getElem?.mp listed
    exact ⟨_, (consistent.mem_scan c _).mpr ⟨⟨f.location, k, [i]⟩,
      .single placed clauses (.fact found accepted), s, placed, rfl⟩, rfl, rfl⟩

end Registry.Consistent

end TechniqueScan
