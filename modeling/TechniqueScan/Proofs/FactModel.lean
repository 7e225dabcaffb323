import TechniqueScan.Proofs.Order

/-!
The sequences of instructions of a model. Facts are kept in ascending order, so the instructions of
a procedure are met one after the other; the sequence of a procedure lists exactly their indices.
-/

namespace TechniqueScan

open Std

theorem Fact.normal_scope (f : Fact) : f.normal.scope = f.scope := by
  unfold Fact.normal
  split
  · rfl
  · rfl

namespace FactModel

/-- The indices of the instructions of a procedure, in ascending order. -/
def instructionsOf (m : FactModel) (procedure : String) : List Nat :=
  (List.range m.size).filter fun i => (m.fact? i).any fun f => sequenceOf? f = some procedure

theorem sequenceOf?_eq_some_iff (f : Fact) (procedure : String) :
    sequenceOf? f = some procedure ↔ f.isInstruction ∧ f.scope = .procedure procedure := by
  rw [sequenceOf?]
  cases f.isInstruction with
  | false => simp
  | true => cases f.scope <;> simp [Scope.procedureName?]

theorem mem_instructionsOf (m : FactModel) (procedure : String) (i : Nat) :
    i ∈ m.instructionsOf procedure ↔
      ∃ f, m.fact? i = some f ∧ f.isInstruction ∧ f.scope = .procedure procedure := by
  simp only [instructionsOf, List.mem_filter, List.mem_range, Option.any_eq_true, decide_eq_true_eq,
    sequenceOf?_eq_some_iff]
  constructor
  · rintro ⟨_, found⟩
    exact found
  · rintro ⟨f, found, own⟩
    exact ⟨(Array.getElem?_eq_some_iff.mp found).1, f, found, own⟩

theorem instructionsOf_ascends (m : FactModel) (procedure : String) :
    (m.instructionsOf procedure).Pairwise (· < ·) :=
  List.pairwise_lt_range.filter _

/-- The index of a fact is not changed by keeping it in 32 bits, unless there are too many facts. -/
theorem index_fits {m : FactModel} (few : m.size ≤ UInt32.size) {i : Nat} {f : Fact}
    (found : m.fact? i = some f) : i.toUInt32.toNat = i := by
  have inside : i < m.size := (Array.getElem?_eq_some_iff.mp found).1
  exact UInt32.toNat_ofNat_of_lt' (Nat.lt_of_lt_of_le inside few)

/-! ## Grouping -/

/-- The indices, counted from a start, of the instructions of a procedure. -/
def instructionsFrom (start : Nat) (facts : List Fact) (procedure : String) : List Nat :=
  ((facts.zipIdx start).filter fun e => sequenceOf? e.1 = some procedure).map (·.2)

theorem instructionsFrom_cons (start : Nat) (f : Fact) (rest : List Fact) (procedure : String) :
    instructionsFrom start (f :: rest) procedure =
      if sequenceOf? f = some procedure then start :: instructionsFrom (start + 1) rest procedure
      else instructionsFrom (start + 1) rest procedure := by
  rw [instructionsFrom, List.zipIdx_cons, List.filter_cons]
  by_cases own : sequenceOf? f = some procedure
  · simp [own, instructionsFrom]
  · simp [own, instructionsFrom]

theorem instructionsFrom_eq_nil_iff (start : Nat) (facts : List Fact) (procedure : String) :
    instructionsFrom start facts procedure = [] ↔ procedure ∉ facts.filterMap sequenceOf? := by
  induction facts generalizing start with
  | nil => simp [instructionsFrom]
  | cons f rest ih =>
    rw [instructionsFrom_cons]
    by_cases own : sequenceOf? f = some procedure
    · simp [own]
    · rw [if_neg own, ih]
      simp [own]

/-- Where the procedures come in ascending order, each is listed once, with all its instructions. -/
theorem sequencesFrom_eq {start : Nat} {facts : List Fact}
    (sorted : WeaklyAscending (facts.filterMap sequenceOf?)) :
    sequencesFrom start facts =
      (dropRepeats (facts.filterMap sequenceOf?)).map fun p => (p, instructionsFrom start facts p) := by
  induction facts generalizing start with
  | nil => rfl
  | cons f rest ih =>
    rw [sequencesFrom]
    cases own : sequenceOf? f with
    | none =>
      rw [List.filterMap_cons_none own] at sorted ⊢
      dsimp only
      rw [ih sorted]
      refine List.map_congr_left fun p _ => ?_
      simp [instructionsFrom_cons, own]
    | some name =>
      rw [List.filterMap_cons_some own] at sorted ⊢
      dsimp only
      rw [ih (List.pairwise_cons.mp sorted).2]
      have distinct := strictlyAscending_nodup (dropRepeats_strictlyAscending sorted)
      have absent : name ∉ rest.filterMap sequenceOf? →
          instructionsFrom start (f :: rest) name = [start] := by
        intro notLater
        rw [instructionsFrom_cons, if_pos own,
          (instructionsFrom_eq_nil_iff (start + 1) rest name).mpr notLater]
      have others : ∀ ps : List String, name ∉ ps →
          ps.map (fun p => (p, instructionsFrom (start + 1) rest p)) =
            ps.map fun p => (p, instructionsFrom start (f :: rest) p) := by
        intro ps notIn
        refine List.map_congr_left fun p member => ?_
        have different : sequenceOf? f ≠ some p := by
          rw [own]
          rintro ⟨⟩
          exact notIn member
        rw [instructionsFrom_cons, if_neg different]
      rw [dropRepeats_cons] at distinct ⊢
      rw [← mem_dropRepeats] at absent
      cases later : dropRepeats (rest.filterMap sequenceOf?) with
      | nil =>
        rw [later] at absent
        simp [absent]
      | cons n ns =>
        rw [later] at absent distinct
        by_cases same : n = name
        · subst same
          rw [if_pos List.head?_cons] at distinct ⊢
          have more := others ns (List.nodup_cons.mp distinct).1
          simp [instructionsFrom_cons, own, more]
        · have differs : (n :: ns).head? ≠ some name := by simpa using same
          rw [if_neg differs] at distinct ⊢
          have notLater := (List.nodup_cons.mp distinct).1
          have more := others (n :: ns) notLater
          simp only [List.map_cons, if_neg same] at more ⊢
          rw [more, absent notLater]

/-! ## The sequences of a model -/

theorem sequenceNames_weaklyAscending {facts : List Fact} (sorted : StrictlyAscending facts) :
    WeaklyAscending (facts.filterMap sequenceOf?) := by
  refine List.pairwise_filterMap.mpr (sorted.imp ?_)
  intro f g before p ofF q ofG
  have scopes : (compare f.scope g.scope).isLE :=
    Ordering.isLE_left_of_isLE_then (Fact.location_isLE before)
  rw [((sequenceOf?_eq_some_iff f p).mp ofF).2, ((sequenceOf?_eq_some_iff g q).mp ofG).2] at scopes
  exact scopes

variable (binaryId : String) (facts : List Fact)

theorem ofFacts_fact? (i : Nat) :
    (ofFacts binaryId facts).fact? i = (ascending (facts.map Fact.normal))[i]? :=
  List.getElem?_toArray

theorem ofFacts_ascends : StrictlyAscending (ofFacts binaryId facts).facts.toList :=
  ascending_strictlyAscending (facts.map Fact.normal)

theorem mem_ofFacts (f : Fact) : f ∈ (ofFacts binaryId facts).facts ↔ f ∈ facts.map Fact.normal := by
  rw [← Array.mem_toList_iff]
  exact mem_ascending _ _

variable {binaryId facts} in
/-- In one scope later facts do not lie at lower addresses. -/
theorem address_le_of_index_le {i j : Nat} {f g : Fact} (first : (ofFacts binaryId facts).fact? i = some f)
    (second : (ofFacts binaryId facts).fact? j = some g) (notAfter : i ≤ j) (same : f.scope = g.scope) :
    f.location.address ≤ g.location.address := by
  rcases Nat.lt_or_eq_of_le notAfter with before | rfl
  · rw [ofFacts_fact?] at first second
    obtain ⟨inside, rfl⟩ := List.getElem?_eq_some_iff.mp first
    obtain ⟨inside', rfl⟩ := List.getElem?_eq_some_iff.mp second
    have ordered := List.pairwise_iff_getElem.mp (ofFacts_ascends binaryId facts) i j inside inside' before
    exact Location.address_le (Fact.location_isLE ordered) same
  · rw [first] at second
    cases second
    exact UInt64.le_refl _

theorem instructionsOf_ofFacts (procedure : String) :
    (ofFacts binaryId facts).instructionsOf procedure =
      instructionsFrom 0 (ascending (facts.map Fact.normal)) procedure := by
  have indices : List.range (ofFacts binaryId facts).size =
      (ascending (facts.map Fact.normal)).zipIdx.map (·.2) := by
    rw [List.zipIdx_map_snd, List.range_eq_range']
    rfl
  rw [instructionsOf, instructionsFrom, indices, List.filter_map]
  congr 1
  refine List.filter_congr fun e member => ?_
  have found : (ascending (facts.map Fact.normal))[e.2]? = some e.1 :=
    List.mem_zipIdx_iff_getElem?.mp member
  simp [ofFacts_fact?, found]

/-- The sequences of a model are those of the procedures that have instructions. -/
theorem mem_sequences (procedure : String) (is : List Nat) :
    (procedure, is) ∈ (ofFacts binaryId facts).sequences ↔
      is ≠ [] ∧ is = (ofFacts binaryId facts).instructionsOf procedure := by
  have sorted := sequenceNames_weaklyAscending
    (ascending_strictlyAscending (facts.map Fact.normal))
  rw [instructionsOf_ofFacts]
  show (procedure, is) ∈ sequencesFrom 0 (ascending (facts.map Fact.normal)) ↔ _
  rw [sequencesFrom_eq sorted, List.mem_map]
  constructor
  · rintro ⟨p, member, same⟩
    obtain ⟨rfl, rfl⟩ := Prod.mk.inj same
    refine ⟨fun empty => ?_, rfl⟩
    exact (instructionsFrom_eq_nil_iff _ _ _).mp empty ((mem_dropRepeats _ _).mp member)
  · rintro ⟨filled, rfl⟩
    refine ⟨procedure, (mem_dropRepeats _ _).mpr ?_, rfl⟩
    by_contra absent
    exact filled ((instructionsFrom_eq_nil_iff _ _ _).mpr absent)

theorem sequences_fit (few : (ofFacts binaryId facts).size ≤ UInt32.size) :
    ∀ p ∈ (ofFacts binaryId facts).sequences, ∀ i ∈ p.2, i.toUInt32.toNat = i := by
  rintro ⟨procedure, is⟩ member i listed
  obtain ⟨_, rfl⟩ := (mem_sequences binaryId facts procedure is).mp member
  obtain ⟨f, found, _⟩ := (mem_instructionsOf _ procedure i).mp listed
  exact index_fits few found

end FactModel

end TechniqueScan
