import TechniqueScan.Proofs.Scan.Clauses

/-!
The hits of clauses. A window is tried wherever an instruction has the mnemonic of its first step,
and hits exactly at the runs of consecutive instructions that satisfy its steps; together with the
hits of single facts these are all hits of the patterns.
-/

namespace TechniqueScan.SignatureIndex

variable {α : Type} {category : Category} {signatures : List (Signature α)} {m : FactModel}

theorem instruction?_eq_some_iff (i : Nat) (ins : Instruction) :
    instruction? m i = some ins ↔ ∃ f, m.fact? i = some f ∧ f.seen = .instruction ins := by
  rw [instruction?]
  cases m.fact? i with
  | none => simp
  | some f =>
    obtain ⟨location, seen, context⟩ := f
    cases seen <;> simp

theorem stepAccepts_iff (s : OpcodeStep) (i : Nat) :
    StepAccepts m s i ↔ (instruction? m i).any s.accepts := by
  rw [Option.any_eq_true]
  constructor
  · rintro ⟨f, ins, found, seen, accepted⟩
    exact ⟨ins, (instruction?_eq_some_iff i ins).mpr ⟨f, found, seen⟩, accepted⟩
  · rintro ⟨ins, read, accepted⟩
    obtain ⟨f, found, seen⟩ := (instruction?_eq_some_iff i ins).mp read
    exact ⟨f, ins, found, seen, accepted⟩

theorem windowAccepts_iff (steps : List OpcodeStep) (sequence : List Nat) :
    windowAccepts m steps sequence ↔
      List.Forall₂ (StepAccepts m) steps (sequence.take steps.length) := by
  induction steps generalizing sequence with
  | nil => simp [windowAccepts]
  | cons s steps ih =>
    cases sequence with
    | nil => simp [windowAccepts]
    | cons i is => simp [windowAccepts, ih, stepAccepts_iff]

/-- A window that begins with the first of some instructions and is satisfied by them. -/
def WindowAt (m : FactModel) (signatures : List (Signature α)) (procedure : String)
    (run : List Nat) (h : ClauseHit) : Prop :=
  ∃ steps i is f, (.window steps, h.clause) ∈ placedClauses signatures ∧ run = i :: is ∧
    List.Forall₂ (StepAccepts m) steps run ∧ m.fact? i = some f ∧
    h.location = ⟨.procedure procedure, f.location.address⟩ ∧ h.facts = run

theorem mem_windowsAt (procedure : String) (sequence : List Nat) (h : ClauseHit) :
    h ∈ (build category signatures).windowsAt m procedure sequence ↔
      ∃ run, run <+: sequence ∧ WindowAt m signatures procedure run h := by
  cases sequence with
  | nil =>
    simp only [windowsAt, List.not_mem_nil, List.prefix_nil, false_iff]
    rintro ⟨run, rfl, steps, i, is, f, _, empty, _⟩
    cases empty
  | cons i rest =>
    rw [windowsAt]
    constructor
    · intro member
      cases read : instruction? m i with
      | none =>
        rw [read] at member
        cases member
      | some first =>
        rw [read] at member
        obtain ⟨⟨steps, c⟩, kept, rfl⟩ := List.mem_map.mp member
        obtain ⟨filed, accepted⟩ := List.mem_filter.mp kept
        obtain ⟨placed, s, firstStep, _⟩ := (mem_windows _ _ _).mp filed
        obtain ⟨f, found, _⟩ := (instruction?_eq_some_iff i first).mp read
        obtain ⟨more, rfl⟩ : ∃ more, steps = s :: more := by
          cases steps with
          | nil => cases firstStep
          | cons s' more =>
            cases firstStep
            exact ⟨more, rfl⟩
        refine ⟨(i :: rest).take (s :: more).length, List.take_prefix _ _, s :: more, i,
          rest.take more.length, f, placed, rfl, (windowAccepts_iff _ _).mp accepted, found, ?_, rfl⟩
        rw [found]
        rfl
    · rintro ⟨run, starts, steps, i', is, f, placed, rfl, satisfied, found, place, facts⟩
      obtain ⟨rfl, _⟩ := List.cons_prefix_cons.mp starts
      cases satisfied with
      | @cons s _ more _ step later =>
        obtain ⟨ins, read, accepted⟩ := (Option.any_eq_true _ _).mp ((stepAccepts_iff s i').mp step)
        have mnemonic : ins.mnemonic = s.mnemonic := by
          simp only [OpcodeStep.accepts, Bool.and_eq_true, decide_eq_true_eq] at accepted
          exact accepted.1
        have taken : (i' :: rest).take (s :: more).length = i' :: is := by
          rw [List.prefix_iff_eq_take.mp starts, List.length_cons, List.length_cons, later.length_eq]
        rw [read]
        refine List.mem_map.mpr ⟨(s :: more, h.clause), List.mem_filter.mpr ⟨?_, ?_⟩, ?_⟩
        · exact (mem_windows _ _ _).mpr ⟨placed, s, rfl, mnemonic.symm⟩
        · exact (windowAccepts_iff _ _).mpr (taken ▸ .cons step later)
        · obtain ⟨c, l, is'⟩ := h
          cases place
          cases facts
          simp only [found, taken, Option.map_some, Option.getD_some]

theorem mem_windowsIn (procedure : String) (sequence : List Nat) (h : ClauseHit) :
    h ∈ (build category signatures).windowsIn m procedure sequence ↔
      ∃ run, run <:+: sequence ∧ WindowAt m signatures procedure run h := by
  induction sequence with
  | nil =>
    simp only [windowsIn, List.not_mem_nil, List.infix_nil, false_iff]
    rintro ⟨run, rfl, steps, i, is, f, _, empty, _⟩
    cases empty
  | cons i rest ih =>
    rw [windowsIn, List.mem_append, mem_windowsAt, ih]
    constructor
    · rintro (⟨run, here, hit⟩ | ⟨run, later, hit⟩)
      · exact ⟨run, here.isInfix, hit⟩
      · exact ⟨run, List.infix_cons later, hit⟩
    · rintro ⟨run, inside, hit⟩
      rcases List.infix_cons_iff.mp inside with here | later
      · exact .inl ⟨run, here, hit⟩
      · exact .inr ⟨run, later, hit⟩

theorem mem_windowHits (h : ClauseHit) :
    h ∈ (build category signatures).windowHits m ↔
      ∃ procedure sequence run, (procedure, sequence) ∈ m.sequences ∧ run <:+: sequence ∧
        WindowAt m signatures procedure run h := by
  have anywhere : h ∈ m.sequences.flatMap (fun e => (build category signatures).windowsIn m e.1 e.2) ↔
      ∃ procedure sequence run, (procedure, sequence) ∈ m.sequences ∧ run <:+: sequence ∧
        WindowAt m signatures procedure run h := by
    rw [List.mem_flatMap]
    constructor
    · rintro ⟨⟨procedure, sequence⟩, listed, member⟩
      obtain ⟨run, inside, hit⟩ := (mem_windowsIn _ _ _).mp member
      exact ⟨procedure, sequence, run, listed, inside, hit⟩
    · rintro ⟨procedure, sequence, run, listed, inside, hit⟩
      exact ⟨(procedure, sequence), listed, (mem_windowsIn _ _ _).mpr ⟨run, inside, hit⟩⟩
  rw [windowHits]
  split
  · rename_i none_
    -- Without windows there is nothing to look for, and nothing to be found either.
    simp only [List.not_mem_nil, false_iff]
    rintro ⟨procedure, sequence, run, _, _, steps, i, is, f, placed, rfl, satisfied, _⟩
    cases satisfied with
    | @cons s _ more _ _ _ =>
      have filed : (s :: more, h.clause) ∈ (build category signatures).windows.getD s.mnemonic [] :=
        (mem_windows s.mnemonic (s :: more) h.clause).mpr ⟨placed, s, rfl, rfl⟩
      rw [Std.HashMap.getD_of_isEmpty none_] at filed
      cases filed
  · exact anywhere

theorem mem_factHits (filled : ∀ s ∈ signatures, ∀ p ∈ s.clauses, p.Filled) (h : ClauseHit) :
    h ∈ (build category signatures).factHits m ↔
      ∃ i f, m.fact? i = some f ∧ Placed signatures (·.accepts f) h.clause ∧
        h.location = f.location ∧ h.facts = [i] := by
  rw [factHits, List.mem_flatMap]
  constructor
  · rintro ⟨⟨f, i⟩, listed, member⟩
    obtain ⟨c, hits, rfl⟩ := List.mem_map.mp member
    rw [mem_ascending, mem_factClauses filled] at hits
    have found := List.mem_zipIdx_iff_getElem?.mp listed
    rw [Array.getElem?_toList] at found
    exact ⟨i, f, found, hits, rfl, rfl⟩
  · rintro ⟨i, f, found, hits, place, facts⟩
    refine ⟨(f, i), List.mem_zipIdx_iff_getElem?.mpr ?_, List.mem_map.mpr ⟨h.clause, ?_, ?_⟩⟩
    · rw [Array.getElem?_toList]
      exact found
    · rw [mem_ascending, mem_factClauses filled]
      exact hits
    · obtain ⟨c, l, is⟩ := h
      cases place
      cases facts
      rfl

/-- The hits of clauses are the hits of their patterns. -/
theorem mem_clauseHits (filled : ∀ s ∈ signatures, ∀ p ∈ s.clauses, p.Filled) (binaryId : String)
    (facts : List Fact) (h : ClauseHit) :
    h ∈ (build category signatures).clauseHits (.ofFacts binaryId facts) ↔
      ∃ p, (p, h.clause) ∈ placedClauses signatures ∧
        PatternHit (.ofFacts binaryId facts) p h.location h.facts := by
  obtain ⟨c, l, is⟩ := h
  rw [clauseHits, List.mem_append, mem_factHits filled, mem_windowHits]
  constructor
  · rintro (⟨i, f, found, ⟨p, placed, accepted⟩, rfl, rfl⟩ |
      ⟨procedure, sequence, run, listed, inside, steps, i, is, f, placed, rfl, satisfied, found, rfl, rfl⟩)
    · exact ⟨p, placed, .fact found accepted⟩
    · obtain ⟨_, rfl⟩ := (FactModel.mem_sequences binaryId facts _ _).mp listed
      exact ⟨.window steps, placed, .run inside satisfied found⟩
  · rintro ⟨p, placed, hit⟩
    cases hit with
    | fact found accepted => exact .inl ⟨_, _, found, ⟨p, placed, accepted⟩, rfl, rfl⟩
    | @run steps procedure i is f consecutive satisfied first =>
      have nonempty : (FactModel.ofFacts binaryId facts).instructionsOf procedure ≠ [] := by
        intro empty
        rw [empty, List.infix_nil] at consecutive
        cases consecutive
      exact .inr ⟨procedure, _, i :: is, (FactModel.mem_sequences binaryId facts _ _).mpr
        ⟨nonempty, rfl⟩, consecutive, steps, i, is, f, placed, rfl, satisfied, first, rfl, rfl⟩

end TechniqueScan.SignatureIndex
