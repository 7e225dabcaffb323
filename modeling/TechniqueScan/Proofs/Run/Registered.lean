import TechniqueScan.Proofs.Correlation.Registered
import TechniqueScan.Proofs.Run.Categories
import TechniqueScan.Proofs.Scan.Grounds

/-!
No signature is ever lost. The list of signatures, the positions filed for identifiers, the arrangements
for scanning and the rules of an accepted registry agree with each other, so that whatever a run
correlates is registered.
-/

namespace TechniqueScan

variable {α : Type}

/-! ## The parts of a registry -/

/-- A registry whose parts tell the same of every signature and of every rule. -/
structure Registry.Coherent (r : Registry α) : Prop where
  order : ∀ (i : Nat) (s : Signature α), r.signatures[i]? = some s → s.order = i
  ruleOrder : ∀ (i : Nat) (rule : Rule α), r.rules[i]? = some rule → rule.order = i
  /-- The identifiers of the signatures are filed, each at the position of its signature. -/
  positioned : Positioned r.signatures r.positions
  /-- An identifier names the one signature that carries it. -/
  signature?_iff : ∀ id s, r.signature? id = some s ↔ r.signatures.filter (fun t => t.id = id) = [s]
  signaturesFor_sublist : ∀ c, (r.signaturesFor c).Sublist r.signatures
  signaturesFor_category : ∀ c, ∀ s ∈ r.signaturesFor c, s.category = c
  signaturesFor_perm : (Category.all.flatMap r.signaturesFor).Perm r.signatures
  rule_several : ∀ rule ∈ r.rules, 2 ≤ rule.signatures.length ∧ rule.signatures.Nodup
  rule_resolved : ∀ rule ∈ r.rules, ∀ id ∈ rule.signatures,
    ∃ s, r.signature? id = some s ∧ s.category = rule.category
  indexed : ∀ c, ∃ index, r.indexes.lookup c = some index ∧ ∀ binaryId facts,
    ∀ x ∈ index.scan (.ofFacts binaryId facts), x.category = c ∧
      (∃ s, r.signature? x.signatureId = some s ∧ s.category = c) ∧
      ∀ i ∈ x.facts, (∃ f, (FactModel.ofFacts binaryId facts).fact? i = some f) ∧
        ((FactModel.ofFacts binaryId facts).size ≤ UInt32.size → i.toUInt32.toNat = i)

/-- Items at counted positions carry the positions at which they are listed. -/
theorem order_of_getElem? {β : Type} {order : β → Nat} {items : List β}
    (counted : items.map order = List.range items.length) {i : Nat} {b : β}
    (listed : items[i]? = some b) : order b = i := by
  have inside : i < items.length := (List.getElem?_eq_some_iff.mp listed).1
  have placed : (items.map order)[i]? = some (order b) := by rw [List.getElem?_map, listed]; rfl
  rw [counted, List.getElem?_range inside] at placed
  exact (Option.some.inj placed).symm

variable [Arithmetic α]

namespace Registry.Consistent

variable {r : Registry α} (consistent : r.Consistent)

include consistent

theorem signature?_iff (id : String) (s : Signature α) :
    r.signature? id = some s ↔ r.signatures.filter (fun t => t.id = id) = [s] := by
  rw [Registry.signature?, consistent.positioned.signatureAt?_eq_some_iff]
  constructor
  · rintro ⟨member, rfl⟩
    exact filter_eq_singleton consistent.ids member (decide_eq_true rfl) fun _ _ => of_decide_eq_true
  · intro single
    have listed : s ∈ r.signatures.filter fun t => t.id = id := single ▸ List.mem_singleton_self s
    obtain ⟨member, same⟩ := List.mem_filter.mp listed
    exact ⟨member, of_decide_eq_true same⟩

/-- The signature of a scanned match can be looked up. -/
theorem signature?_of_scan {c : Category} {m : FactModel} {x : RawMatch} (member : x ∈ r.scan c m) :
    ∃ s ∈ r.signatures, s.id = x.signatureId ∧ r.signature? x.signatureId = some s ∧ s.category = c := by
  obtain ⟨s, listed, same⟩ := r.scan_known c m x member
  obtain ⟨declared, own⟩ := List.mem_filter.mp listed
  refine ⟨s, declared, same, ?_, of_decide_eq_true own⟩
  rw [← same]
  exact consistent.signature?_eq declared

theorem coherent : r.Coherent where
  order _ _ := order_of_getElem? consistent.orders
  ruleOrder _ _ := order_of_getElem? consistent.ruleOrders
  positioned := consistent.positioned
  signature?_iff := consistent.signature?_iff
  signaturesFor_sublist _ := List.filter_sublist
  signaturesFor_category _ _ listed := of_decide_eq_true (List.mem_filter.mp listed).2
  signaturesFor_perm := flatMap_filter_perm Category.all_nodup fun s _ => Category.mem_all s.category
  rule_several rule member :=
    ⟨(consistent.ruleValidated rule member).several, (consistent.ruleValidated rule member).signatures_nodup⟩
  rule_resolved rule member id listed := by
    obtain ⟨s, declared, rfl, own⟩ := consistent.resolved rule member id listed
    exact ⟨s, consistent.signature?_eq declared, own⟩
  indexed c := by
    refine ⟨_, r.indexes_lookup c, fun binaryId facts x member => ?_⟩
    rw [← r.scan_eq] at member
    obtain ⟨s, _, _, found, own⟩ := consistent.signature?_of_scan member
    have grounded := consistent.scan_grounded member
    refine ⟨Registry.scan_category member, ⟨s, found, own⟩, fun i listed => ⟨?_, ?_⟩⟩
    · obtain ⟨f, present, _⟩ := grounded.present i listed
      exact ⟨f, present⟩
    · intro few
      exact grounded.fits few i listed

end Registry.Consistent

/-! ## What a run correlates -/

namespace Run

/-- A run that never meets a signature which the registry does not know, neither among any of its
matches nor behind a finding that it makes. -/
structure LooksUpRegistered (registry : Registry α) (m : FactModel) (a : Analyzer) : Prop where
  known : ∀ members, (∀ x ∈ members, x ∈ rawMatches registry a.categories m) →
    ∀ p ∈ contributions registry members, ∃ s ∈ registry.signatures, p = ⟨s.id, some s⟩
  made : ∀ f ∈ (correlate registry m (rawMatches registry a.categories m)).findings,
    ∃ rule members signatures, f = findingOf registry m f.site rule members ∧
      (∀ x ∈ members, x ∈ rawMatches registry a.categories m) ∧
      contributions registry members = signatures.map (fun s => ⟨s.id, some s⟩) ∧
      signatures ≠ [] ∧ signatures.Sublist (registry.signaturesFor f.category)

variable {registry : Registry α} (m : FactModel) (a : Analyzer)

theorem lookup_contribution (consistent : registry.Consistent) {members : List RawMatch}
    (scanned : ∀ x ∈ members, x ∈ rawMatches registry a.categories m) {p : Contribution α}
    (contributes : p ∈ contributions registry members) :
    ∃ s ∈ registry.signatures, p = ⟨s.id, some s⟩ := by
  obtain ⟨id, named, rfl⟩ := List.mem_map.mp (List.mem_mergeSort.mp contributes)
  obtain ⟨x, inside, rfl⟩ := List.mem_map.mp ((mem_ascending _ _).mp named)
  obtain ⟨c, _, member⟩ := List.mem_flatMap.mp (scanned x inside)
  obtain ⟨s, declared, same, found, _⟩ := consistent.signature?_of_scan member
  exact ⟨s, declared, by rw [found, same]⟩

theorem looksUpRegistered (consistent : registry.Consistent) : LooksUpRegistered registry m a where
  known _ scanned _ := lookup_contribution m a consistent scanned
  made f member := by
    rw [consistent.mem_correlate] at member
    obtain ⟨rule, members, made, filled, among⟩ := consistent.correlateAt_made m f.site _ member
    have scanned : ∀ x ∈ members, x ∈ rawMatches registry a.categories m := fun x inside =>
      ((mem_matchesAt _ _ x).mp (among x inside)).1
    have known : registry.Knows f.category members := by
      intro x inside
      obtain ⟨c, _, found⟩ := List.mem_flatMap.mp (scanned x inside)
      have here : x.category = f.category :=
        congrArg Site.category ((mem_matchesAt _ _ x).mp (among x inside)).2
      rw [← here, Registry.scan_category found]
      exact registry.scan_known c m x found
    refine ⟨rule, members, registry.matchedIn f.category members, made, scanned,
      consistent.contributions_eq known, ?_, List.filter_sublist⟩
    obtain ⟨x, inside⟩ := List.exists_mem_of_ne_nil _ filled
    obtain ⟨s, listed, same⟩ := known x inside
    exact List.ne_nil_of_mem (Registry.mem_matchedIn.mpr ⟨listed, x, inside, same.symm⟩)

/-- The parts of an accepted registry agree, and no run ever looks up a signature in vain. -/
theorem accepted_coherent (accepted : registry.Accepted) : registry.Coherent ∧
    ∀ binaryId facts a, LooksUpRegistered registry (.ofFacts binaryId facts) a :=
  ⟨accepted.consistent.coherent, fun _ _ a => looksUpRegistered _ a accepted.consistent⟩

theorem accepted_coherent_debugger : Registry.debuggerRegistry.Accepted ∧
    Registry.debuggerRegistry.Coherent ∧
    LooksUpRegistered Registry.debuggerRegistry guardedSample .all := by
  have coherent := accepted_coherent Registry.debuggerRegistry_accepted
  exact ⟨Registry.debuggerRegistry_accepted, coherent.1, coherent.2 _ _ _⟩

end Run

end TechniqueScan
