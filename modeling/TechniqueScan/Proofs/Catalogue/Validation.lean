import TechniqueScan.Catalogue.Validation
import TechniqueScan.Proofs.Ascending
import TechniqueScan.Proofs.Except

/-!
Entries that pass their checks. What an accepted entry turns into is determined by the entry, its
category and its position, and holds what the checks have asked for.
-/

namespace TechniqueScan

open Arithmetic

variable {α : Type}

/-- Every text to find has a character, and every window has a step. -/
def Pattern.Filled : Pattern → Prop
  | .needles ts => ∀ t ∈ ts, t.toList ≠ []
  | .window steps => steps ≠ []
  | _ => True

/-! ## Clauses -/

theorem filledTexts_ne_nil {texts : List String} {t : String} (member : t ∈ filledTexts texts) :
    t.toList ≠ [] := by
  rw [filledTexts, mem_ascending] at member
  intro empty
  have filled := (List.mem_filter.mp member).2
  simp [Text.isBlankText, empty] at filled

theorem filledTexts_singleton {t : String} (filled : Text.isBlankText t = false) :
    filledTexts [t] = [t] := by
  simp [filledTexts, filled, ascending, dropRepeats]

theorem mapM_toStep?_ne_nil {entries : List StepEntry} {steps : List OpcodeStep}
    (filled : entries ≠ []) (converted : entries.mapM StepEntry.toStep? = some steps) : steps ≠ [] := by
  rintro rfl
  cases entries with
  | nil => exact filled rfl
  | cons e rest =>
    rw [List.mapM_cons] at converted
    cases first : e.toStep? with
    | none => simp [first] at converted
    | some s => cases later : rest.mapM StepEntry.toStep? <;> simp [first, later] at converted

theorem ClauseEntry.pattern_filled {id : String} {c : ClauseEntry} {p : Pattern}
    (accepted : (c.pattern id : Except (CatalogueError α) Pattern) = .ok p) : p.Filled := by
  unfold ClauseEntry.pattern at accepted
  dsimp only at accepted
  split at accepted
  · split at accepted
    · cases accepted
    · cases accepted
      trivial
  · split at accepted
    · cases accepted
    · cases accepted
      exact fun t member => filledTexts_ne_nil member
  · split at accepted
    · cases accepted
    · split at accepted
      · cases accepted
        trivial
      · cases accepted
  · split at accepted
    · split at accepted
      · cases accepted
      · cases accepted
        trivial
    · split at accepted
      · cases accepted
      · cases accepted
        trivial
  · split at accepted
    · cases accepted
    · rename_i filled
      split at accepted
      · rename_i steps converted
        cases accepted
        exact mapM_toStep?_ne_nil (by simpa using filled) converted
      · cases accepted

theorem ClauseEntry.validate_filled {id : String} {c : ClauseEntry} {p : Pattern}
    (accepted : (c.validate id : Except (CatalogueError α) Pattern) = .ok p) : p.Filled := by
  unfold ClauseEntry.validate at accepted
  split at accepted
  · cases accepted
  · split at accepted
    · cases accepted
    · split at accepted
      · cases accepted
      · exact ClauseEntry.pattern_filled accepted

/-! ## Signatures -/

variable [Arithmetic α]

/-- The signature of an entry with these clauses. -/
def SignatureEntry.toSignature (e : SignatureEntry α) (category : Category) (order : Nat)
    (clauses : List Pattern) : Signature α :=
  { id := Text.trim e.id, category, description := describedBy (Text.trim e.id) e.description,
    weight := e.weight, clauses, order }

/-- An entry is accepted if its identifier, its weight and each of its clauses are. -/
theorem SignatureEntry.validate_ok_iff {e : SignatureEntry α} {category : Category} {order : Nat}
    {s : Signature α} :
    e.validate category order = .ok s ↔
      (Text.trim e.id).isEmpty = false ∧ isWeight e.weight ∧ e.clauses ≠ [] ∧
        ∃ clauses, List.Forall₂ (fun (c : ClauseEntry) p =>
            (c.validate (Text.trim e.id) : Except (CatalogueError α) Pattern) = .ok p)
          e.clauses clauses ∧ e.toSignature category order clauses = s := by
  unfold SignatureEntry.validate
  dsimp only
  cases named : (Text.trim e.id).isEmpty with
  | true => simp
  | false =>
    cases weighs : isWeight e.weight with
    | false => simp
    | true =>
      cases entries : e.clauses with
      | nil => simp
      | cons c rest =>
        simp only [Bool.false_eq_true, Bool.not_true, if_false, List.isEmpty_cons, map_ok_iff,
          mapM_ok_iff, true_and, ne_eq, reduceCtorEq, not_false_eq_true]
        rfl

theorem SignatureEntry.validate_symbol {e : SignatureEntry α} {symbol : String}
    (asks : e.clauses = [{ symbols := some [symbol] }]) (named : (Text.trim e.id).isEmpty = false)
    (weighs : isWeight e.weight) (filled : Text.isBlankText symbol = false) {category : Category}
    {order : Nat} :
    e.validate category order = .ok (e.toSignature category order [.names [symbol]]) := by
  refine SignatureEntry.validate_ok_iff.mpr ⟨named, weighs, by simp [asks], _, ?_, rfl⟩
  rw [asks]
  refine .cons ?_ .nil
  simp [ClauseEntry.validate, ClauseEntry.pattern, ClauseEntry.kindsSet, filledTexts_singleton filled]

/-- A signature that passed the checks of a catalogue. -/
def Signature.Validated (s : Signature α) : Prop :=
  ∃ (e : SignatureEntry α) (category : Category) (order : Nat), e.validate category order = .ok s

namespace Signature.Validated

theorem filled {s : Signature α} (validated : s.Validated) : ∀ p ∈ s.clauses, p.Filled := by
  obtain ⟨e, category, order, accepted⟩ := validated
  obtain ⟨_, _, _, clauses, each, rfl⟩ := SignatureEntry.validate_ok_iff.mp accepted
  intro p member
  obtain ⟨c, _, validated⟩ := exists_of_forall₂_right each member
  exact ClauseEntry.validate_filled validated

theorem clauses_ne_nil {s : Signature α} (validated : s.Validated) : s.clauses ≠ [] := by
  obtain ⟨e, category, order, accepted⟩ := validated
  obtain ⟨_, _, filled, clauses, each, rfl⟩ := SignatureEntry.validate_ok_iff.mp accepted
  intro empty
  have lengths := each.length_eq
  rw [show clauses = [] from empty] at lengths
  exact filled (List.length_eq_zero_iff.mp lengths)

end Signature.Validated

/-! ## Rules -/

omit [Arithmetic α] in
/-- The references of a rule are its texts without outer blanks, as long as none comes twice. -/
theorem references_ok_iff {seen texts ids : List String} :
    (references seen texts : Except (RuleFault α) (List String)) = .ok ids ↔
      ids = (texts.map Text.trim).filter (fun s => !s.isEmpty) ∧ ids.Nodup ∧ ∀ id ∈ ids, id ∉ seen := by
  induction texts generalizing seen ids with
  | nil => simp +contextual [references, eq_comm]
  | cons s rest ih =>
    rw [references]
    cases blank : (Text.trim s).isEmpty with
    | true => simp [ih, blank]
    | false =>
      by_cases twice : Text.trim s ∈ seen
      · simp only [Bool.false_eq_true, if_false, List.contains_iff_mem.mpr twice, if_true,
          reduceCtorEq, false_iff]
        rintro ⟨rfl, -, fresh⟩
        exact fresh (Text.trim s) (by simp [blank]) twice
      · have absent : seen.contains (Text.trim s) = false := by simpa using twice
        simp only [Bool.false_eq_true, if_false, absent, map_ok_iff, ih, List.map_cons,
          List.filter_cons, blank, Bool.not_false, if_true]
        constructor
        · rintro ⟨later, ⟨rfl, nodup, fresh⟩, rfl⟩
          refine ⟨rfl, List.nodup_cons.mpr ⟨fun again => fresh _ again List.mem_cons_self, nodup⟩, ?_⟩
          rintro id (_ | ⟨_, member⟩)
          · exact twice
          · exact fun before => fresh id member (List.mem_cons_of_mem _ before)
        · rintro ⟨rfl, nodup, fresh⟩
          obtain ⟨once, nodup⟩ := List.nodup_cons.mp nodup
          refine ⟨_, ⟨rfl, nodup, ?_⟩, rfl⟩
          rintro id member (_ | ⟨_, before⟩)
          · exact once member
          · exact fresh id (List.mem_cons_of_mem _ member) before

/-- The rule of an entry that ties these signatures. -/
def RuleEntry.toRule (e : RuleEntry α) (category : Category) (order : Nat)
    (signatures : List String) : Rule α :=
  { id := Text.trim e.id, category, description := describedBy (Text.trim e.id) e.description,
    signatures, boost := e.boost, order }

/-- An entry is accepted if its identifier, its references and its boost are. -/
theorem RuleEntry.validate_ok_iff {e : RuleEntry α} {category : Category} {order : Nat}
    {r : Rule α} :
    e.validate category order = .ok r ↔
      (Text.trim e.id).isEmpty = false ∧ ∃ ids, (references [] e.signatures :
          Except (RuleFault α) (List String)) = .ok ids ∧ 2 ≤ ids.length ∧ isBoost e.boost ∧
        e.toRule category order ids = r := by
  unfold RuleEntry.validate
  dsimp only
  cases named : (Text.trim e.id).isEmpty with
  | true => simp
  | false =>
    cases listed : (references [] e.signatures : Except (RuleFault α) (List String)) with
    | error fault => simp
    | ok ids =>
      by_cases few : ids.length < 2
      · simp [few]
      · cases boosts : isBoost e.boost with
        | false => simp [few]
        | true => simp [few, Nat.not_lt.mp few, toRule]

/-- A rule that passed its own checks. -/
def Rule.Validated (r : Rule α) : Prop :=
  ∃ (e : RuleEntry α) (category : Category) (order : Nat), e.validate category order = .ok r

namespace Rule.Validated

theorem signatures_nodup {r : Rule α} (validated : r.Validated) : r.signatures.Nodup := by
  obtain ⟨e, category, order, accepted⟩ := validated
  obtain ⟨_, ids, listed, _, _, rfl⟩ := RuleEntry.validate_ok_iff.mp accepted
  exact (references_ok_iff.mp listed).2.1

theorem several {r : Rule α} (validated : r.Validated) : 2 ≤ r.signatures.length := by
  obtain ⟨e, category, order, accepted⟩ := validated
  obtain ⟨_, ids, _, many, _, rfl⟩ := RuleEntry.validate_ok_iff.mp accepted
  exact many

end Rule.Validated

end TechniqueScan
