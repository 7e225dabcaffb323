import TechniqueScan.Proofs.Scan.Grounds

/-!
Scans of models that grow. A model with further facts keeps every hit, in the same scope, as long as
no instruction is new: the instructions of a procedure then follow each other as before.
-/

namespace TechniqueScan

namespace FactModel

/-- A model with the facts of another one and no further instruction. -/
structure GrowsTo (m m' : FactModel) : Prop where
  kept : ∀ f ∈ m.facts, f ∈ m'.facts
  instructions : ∀ f ∈ m'.facts, f.isInstruction → f ∈ m.facts

theorem mem_facts_iff {m : FactModel} {f : Fact} : f ∈ m.facts ↔ ∃ i, m.fact? i = some f :=
  Array.mem_iff_getElem?

/-- The instructions of a procedure are the facts that belong to its sequence, in their order. -/
theorem instructionsOf_facts (m : FactModel) (procedure : String) :
    (m.instructionsOf procedure).map m.fact? =
      (m.facts.toList.filter fun f => sequenceOf? f = some procedure).map some := by
  have every : (List.range m.size).map m.fact? = m.facts.toList.map some := by
    refine List.ext_getElem (by simp [size]) ?_
    intro i inside _
    simp [fact?]
  have kept := List.filter_map (p := fun g : Option Fact => g.any fun f => sequenceOf? f = some procedure)
    (f := m.fact?) (l := List.range m.size)
  rw [every, List.filter_map] at kept
  exact kept.symm

end FactModel

/-! ## Patterns -/

theorem StepAccepts.congr {m m' : FactModel} {s : OpcodeStep} {i i' : Nat}
    (accepted : StepAccepts m s i) (same : m.fact? i = m'.fact? i') : StepAccepts m' s i' := by
  obtain ⟨f, ins, found, seen⟩ := accepted
  exact ⟨f, ins, same ▸ found, seen⟩

theorem satisfied_congr {m m' : FactModel} {steps : List OpcodeStep} {run run' : List Nat}
    (same : run.map m.fact? = run'.map m'.fact?) (satisfied : List.Forall₂ (StepAccepts m) steps run) :
    List.Forall₂ (StepAccepts m') steps run' := by
  induction satisfied generalizing run' with
  | nil =>
    cases run' with
    | nil => exact .nil
    | cons i' is' => cases same
  | cons here _ ih =>
    cases run' with
    | nil => cases same
    | cons i' is' =>
      obtain ⟨first, later⟩ := List.cons.inj same
      exact .cons (here.congr first) (ih later)

variable {α : Type} {binaryId binaryId' : String} {facts facts' : List Fact}

namespace FactModel.GrowsTo

variable (grows : (ofFacts binaryId facts).GrowsTo (ofFacts binaryId' facts'))

include grows

theorem instructionsOf_eq (procedure : String) :
    ((ofFacts binaryId facts).instructionsOf procedure).map (ofFacts binaryId facts).fact? =
      ((ofFacts binaryId' facts').instructionsOf procedure).map (ofFacts binaryId' facts').fact? := by
  rw [instructionsOf_facts, instructionsOf_facts]
  refine congrArg _ (strictlyAscending_ext ((ofFacts_ascends _ _).filter _)
    ((ofFacts_ascends _ _).filter _) ?_)
  intro f
  simp only [List.mem_filter, Array.mem_toList_iff, decide_eq_true_eq]
  constructor
  · rintro ⟨member, own⟩
    exact ⟨grows.kept f member, own⟩
  · rintro ⟨member, own⟩
    exact ⟨grows.instructions f member ((sequenceOf?_eq_some_iff f procedure).mp own).1, own⟩

/-- A run of instructions is found again, perhaps at other indices. -/
theorem run_exists {procedure : String} {run : List Nat}
    (consecutive : run <:+: (ofFacts binaryId facts).instructionsOf procedure) :
    ∃ run', run' <:+: (ofFacts binaryId' facts').instructionsOf procedure ∧
      run.map (ofFacts binaryId facts).fact? = run'.map (ofFacts binaryId' facts').fact? := by
  have inside := consecutive.map (ofFacts binaryId facts).fact?
  rw [grows.instructionsOf_eq] at inside
  obtain ⟨before, after, whole⟩ := inside
  obtain ⟨front, rest, split, here, _⟩ := List.map_eq_append_iff.mp whole.symm
  obtain ⟨lead, run', split', _, same⟩ := List.map_eq_append_iff.mp here
  exact ⟨run', ⟨lead, rest, by rw [split, split']⟩, same.symm⟩

/-- A pattern hits where it has hit before, and the very same facts. -/
theorem pattern_hits {p : Pattern} {l : Location} {is : List Nat}
    (hit : PatternHit (ofFacts binaryId facts) p l is) :
    ∃ is', PatternHit (ofFacts binaryId' facts') p l is' ∧
      is.map (ofFacts binaryId facts).fact? = is'.map (ofFacts binaryId' facts').fact? := by
  cases hit with
  | @fact _ i f found accepted =>
    obtain ⟨i', found'⟩ := mem_facts_iff.mp (grows.kept f (mem_facts_iff.mpr ⟨_, found⟩))
    refine ⟨[i'], .fact found' accepted, ?_⟩
    rw [List.map_singleton, List.map_singleton, found, found']
  | @run steps procedure i is f consecutive satisfied first =>
    obtain ⟨run', consecutive', same⟩ := grows.run_exists consecutive
    cases run' with
    | nil => cases same
    | cons i' is' =>
      have first' : (ofFacts binaryId' facts').fact? i' = some f := (List.cons.inj same).1 ▸ first
      exact ⟨i' :: is', .run consecutive' (satisfied_congr same satisfied) first', same⟩

/-- A fact that a pattern hits in a procedure is hit there again, perhaps at another index. -/
theorem hitIn_exists {procedure : String} {p : Pattern} {i : Nat}
    (hit : HitIn (ofFacts binaryId facts) procedure p i) :
    ∃ i', HitIn (ofFacts binaryId' facts') procedure p i' ∧
      (ofFacts binaryId facts).fact? i = (ofFacts binaryId' facts').fact? i' := by
  obtain ⟨l, is, hit, inside, listed⟩ := hit
  obtain ⟨is', hit', same⟩ := grows.pattern_hits hit
  have found : (ofFacts binaryId facts).fact? i ∈ is'.map (ofFacts binaryId' facts').fact? := by
    rw [← same]
    exact List.mem_map_of_mem listed
  obtain ⟨i', listed', same'⟩ := List.mem_map.mp found
  exact ⟨i', ⟨l, is', hit', inside, listed'⟩, same'.symm⟩

end FactModel.GrowsTo

/-! ## Signatures -/

/-- A signature of several clauses hits in every procedure in which each of them does. -/
theorem SignatureHit.exists_joint {m : FactModel} {signatures : List (Signature α)} {k : Nat}
    {s : Signature α} {procedure : String} (listed : signatures[k]? = some s)
    (several : s.isMultiClause) (each : ∀ p ∈ s.clauses, ∃ i, HitIn m procedure p i) :
    ∃ address is, SignatureHit m signatures ⟨⟨.procedure procedure, address⟩, k, is⟩ ∧
      ∀ i, i ∈ is ↔ ∃ p ∈ s.clauses, HitIn m procedure p i := by
  classical
  have present {i : Nat} (inside : ∃ p ∈ s.clauses, HitIn m procedure p i) :
      ∃ f, m.fact? i = some f := by
    obtain ⟨p, _, l, is, hit, _, listed⟩ := inside
    exact hit.fact_exists i listed
  let is := (List.range m.size).filter fun i => ∃ p ∈ s.clauses, HitIn m procedure p i
  have union (i : Nat) : i ∈ is ↔ ∃ p ∈ s.clauses, HitIn m procedure p i := by
    rw [List.mem_filter, decide_eq_true_iff, List.mem_range]
    refine and_iff_right_of_imp fun inside => ?_
    obtain ⟨f, found⟩ := present inside
    exact (Array.getElem?_eq_some_iff.mp found).1
  have ascends : StrictlyAscending is :=
    (List.pairwise_lt_range.imp fun before => Nat.compare_eq_lt.mpr before).filter _
  obtain ⟨p, clause⟩ : ∃ p, p ∈ s.clauses :=
    List.exists_mem_of_length_pos (Nat.zero_lt_of_lt (of_decide_eq_true several))
  obtain ⟨i, hit⟩ := each p clause
  have inside : ∃ p ∈ s.clauses, HitIn m procedure p i := ⟨p, clause, hit⟩
  exact ⟨_, is, .joint listed several each ascends union
    (SignatureIndex.leastAddress_lowest ⟨i, (union i).mpr inside, present inside⟩), union⟩

/-- The facts that a signature hits in a grown model, beside those that it has hit before: all of them
are among the new ones, and a signature of one clause hits no others. -/
structure KeptHit (m m' : FactModel) (s : Signature α) (l l' : Location) (is is' : List Nat) : Prop where
  scope : l'.scope = l.scope
  facts : ∀ i ∈ is, ∃ f, m.fact? i = some f ∧ ∃ i' ∈ is', m'.fact? i' = some f
  single : s.clauses.length = 1 → l' = l ∧ is'.map m'.fact? = is.map m.fact?

namespace FactModel.GrowsTo

variable (grows : (ofFacts binaryId facts).GrowsTo (ofFacts binaryId' facts'))

include grows

/-- A signature hits in every scope in which it has hit before, and what it has hit there. -/
theorem signature_hits {signatures : List (Signature α)} {hit : Hit}
    (found : SignatureHit (ofFacts binaryId facts) signatures hit) {s : Signature α}
    (placed : signatures[hit.signature]? = some s) :
    ∃ hit', SignatureHit (ofFacts binaryId' facts') signatures hit' ∧ hit'.signature = hit.signature ∧
      KeptHit (ofFacts binaryId facts) (ofFacts binaryId' facts') s hit.location hit'.location
        hit.facts hit'.facts := by
  have present := found.grounded.present
  cases found with
  | @single k _ p l is listed clauses hit =>
    obtain ⟨is', hit', same⟩ := grows.pattern_hits hit
    refine ⟨⟨l, k, is'⟩, .single listed clauses hit', rfl, rfl, ?_, fun _ => ⟨rfl, same.symm⟩⟩
    intro i inside
    obtain ⟨f, found, _⟩ := present i inside
    have again : some f ∈ is'.map (ofFacts binaryId' facts').fact? := by
      rw [← same, ← found]
      exact List.mem_map_of_mem inside
    exact ⟨f, found, List.mem_map.mp again⟩
  | @joint k _ procedure address is listed several each _ union _ =>
    cases placed.symm.trans listed
    have each' : ∀ p ∈ s.clauses, ∃ i, HitIn (ofFacts binaryId' facts') procedure p i := by
      intro p clause
      obtain ⟨i, hit⟩ := each p clause
      obtain ⟨i', hit', _⟩ := grows.hitIn_exists hit
      exact ⟨i', hit'⟩
    obtain ⟨address', is', joint, union'⟩ := SignatureHit.exists_joint listed several each'
    refine ⟨⟨⟨.procedure procedure, address'⟩, k, is'⟩, joint, rfl, rfl, ?_, ?_⟩
    · intro i inside
      obtain ⟨f, found, _⟩ := present i inside
      obtain ⟨p, clause, hit⟩ := (union i).mp inside
      obtain ⟨i', hit', same⟩ := grows.hitIn_exists hit
      exact ⟨f, found, i', (union' i').mpr ⟨p, clause, hit'⟩, same ▸ found⟩
    · intro single
      have atLeastTwo : 1 < s.clauses.length := of_decide_eq_true several
      omega

/-- Whatever is found in a scope is found there again once further facts are known. -/
theorem scan_keeps [Arithmetic α] {registry : Registry α} (consistent : registry.Consistent)
    {c : Category} {x : RawMatch} (member : x ∈ registry.scan c (ofFacts binaryId facts)) :
    ∃ x' ∈ registry.scan c (ofFacts binaryId' facts'),
      x'.signatureId = x.signatureId ∧ x'.site = x.site := by
  obtain ⟨hit, found, s, listed, rfl⟩ := (consistent.mem_scan c x).mp member
  obtain ⟨hit', found', same, kept⟩ := grows.signature_hits found listed
  refine ⟨⟨s.id, c, hit'.location, hit'.facts⟩,
    (consistent.mem_scan c _).mpr ⟨hit', found', s, same ▸ listed, rfl⟩, rfl, ?_⟩
  rw [RawMatch.site, RawMatch.site, kept.scope]

end FactModel.GrowsTo

end TechniqueScan
