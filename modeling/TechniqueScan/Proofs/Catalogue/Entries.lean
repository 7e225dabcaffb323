import Mathlib.Data.List.TakeWhile
import Mathlib.Tactic.MkIffOfInductiveProp
import TechniqueScan.Proofs.Catalogue.Validation

/-!
Which entries are accepted. What the checks ask for is said of the texts as they are written, and a
clause, a signature or a rule is accepted if and only if it is valid in this sense.
-/

namespace TechniqueScan

open Arithmetic

/-! ## Texts -/

namespace Text

/-- What is left of a text without outer blanks is nothing exactly if the text is blank. -/
theorem trim_eq_empty_iff {s : String} : trim s = "" ↔ isBlankText s := by
  rw [trim, String.ofList_eq_empty_iff, trimChars, List.reverse_eq_nil_iff, List.dropWhile_eq_nil_iff,
    isBlankText, List.all_eq_true]
  constructor
  · intro inner c member
    rw [← List.takeWhile_append_dropWhile (p := isBlank) (l := s.toList)] at member
    rcases List.mem_append.mp member with outer | left
    · exact List.mem_takeWhile_imp outer
    · exact inner c (List.mem_reverse.mpr left)
  · intro blank c left
    exact blank c ((List.dropWhile_sublist _).subset (List.mem_reverse.mp left))

theorem trim_isEmpty {s : String} : (trim s).isEmpty = isBlankText s := by
  rw [Bool.eq_iff_iff, String.isEmpty_iff, trim_eq_empty_iff]

theorem toLower_eq_empty_iff {s : String} : toLower s = "" ↔ s = "" := by
  rw [toLower, String.ofList_eq_empty_iff, ← String.toList_eq_nil_iff]
  cases s.toList with
  | nil => simp [lowerFrom]
  | cons c rest =>
    simp only [lowerFrom]
    split
    · simp
    · split <;> simp

end Text

theorem filledTexts_ne_nil_iff {texts : List String} :
    filledTexts texts ≠ [] ↔ ∃ s ∈ texts, Text.isBlankText s = false := by
  rw [Ne, List.eq_nil_iff_forall_not_mem]
  simp [filledTexts]

theorem Category.parse?_eq_some_iff {s : String} {c : Category} :
    parse? s = some c ↔ c.id = Text.trim s := by
  constructor
  · intro parsed
    simpa using List.find?_some parsed
  · intro named
    rw [parse?, ← named, ofId?_id]

theorem Category.id_injective : Function.Injective Category.id := by
  intro c c' same
  have named := ofId?_id c
  rw [same, ofId?_id] at named
  exact (Option.some.inj named).symm

/-! ## Clauses -/

/-- A step that has a mnemonic. -/
def StepEntry.Valid (s : StepEntry) : Prop := Text.isBlankText s.parts.1 = false

theorem StepEntry.toStep?_isSome {s : StepEntry} : s.toStep?.isSome ↔ s.Valid := by
  have named : (Text.toLower (Text.trim s.parts.1)).isEmpty = Text.isBlankText s.parts.1 := by
    rw [Bool.eq_iff_iff, String.isEmpty_iff, Text.toLower_eq_empty_iff, Text.trim_eq_empty_iff]
  rw [Valid, toStep?, named]
  cases Text.isBlankText s.parts.1 <;> simp

theorem mapM_isSome {α β : Type} {f : α → Option β} {items : List α} :
    (items.mapM f).isSome ↔ ∀ a ∈ items, (f a).isSome := by
  induction items with
  | nil => simp
  | cons a rest ih =>
    rw [List.forall_mem_cons, ← ih, List.mapM_cons]
    cases f a <;> cases rest.mapM f <;> simp

/-- The kinds of facts that a clause may ask for. -/
inductive ClauseKind where
  | symbols | strings | regex | numbers | opcodes

/-- Whether a clause asks for facts of a kind. -/
def ClauseEntry.AsksFor (c : ClauseEntry) : ClauseKind → Prop
  | .symbols => c.symbols.isSome
  | .strings => c.strings.isSome
  | .regex => c.regex.isSome
  | .numbers => c.numbers.isSome
  | .opcodes => c.opcodes.isSome

/-- A clause that asks for facts of exactly one kind, and does ask for some. -/
@[mk_iff]
structure ClauseEntry.Valid (c : ClauseEntry) : Prop where
  oneKind : ∃! kind, c.AsksFor kind
  target : c.target.isSome → c.regex.isSome
  symbols : ∀ names, c.symbols = some names → ∃ s ∈ names, Text.isBlankText s = false
  strings : ∀ texts, c.strings = some texts → ∃ s ∈ texts, Text.isBlankText s = false
  regex : ∀ source, c.regex = some source → source ≠ "" ∧ (Regex.ofString? source).isSome
  numbers : ∀ n, c.numbers = some n →
    (n.values ≠ [] ∨ n.min.isSome ∨ n.max.isSome) ∧ n.min.getD 0 ≤ n.max.getD maxWord
  opcodes : ∀ steps, c.opcodes = some steps → steps ≠ [] ∧ ∀ s ∈ steps, s.Valid

theorem ClauseKind.exists_iff {P : ClauseKind → Prop} :
    (∃ kind, P kind) ↔ P .symbols ∨ P .strings ∨ P .regex ∨ P .numbers ∨ P .opcodes := by
  constructor
  · rintro ⟨_ | _ | _ | _ | _, holds⟩ <;> simp [holds]
  · rintro (holds | holds | holds | holds | holds) <;> exact ⟨_, holds⟩

theorem ClauseKind.forall_iff {P : ClauseKind → Prop} :
    (∀ kind, P kind) ↔ P .symbols ∧ P .strings ∧ P .regex ∧ P .numbers ∧ P .opcodes := by
  constructor
  · intro all
    exact ⟨all _, all _, all _, all _, all _⟩
  · rintro ⟨symbols, strings, regex, numbers, opcodes⟩ (_ | _ | _ | _ | _) <;> assumption

namespace ClauseEntry

variable {α : Type} {id : String}

/-- Counting the fields that are set tells whether a clause asks for one kind. -/
theorem kindsSet_eq_one_iff {c : ClauseEntry} : c.kindsSet = 1 ↔ ∃! kind, c.AsksFor kind := by
  simp only [ExistsUnique, ClauseKind.exists_iff, ClauseKind.forall_iff, AsksFor]
  obtain ⟨_ | _, _ | _, _ | _, _, _ | _, _ | _⟩ := c <;> simp [kindsSet]

/-- A clause with one kind set is a clause of that kind. -/
theorem kindsSet_eq_one {c : ClauseEntry} (one : c.kindsSet = 1) :
    (∃ names target, c = ⟨some names, none, none, target, none, none⟩) ∨
      (∃ texts target, c = ⟨none, some texts, none, target, none, none⟩) ∨
      (∃ source target, c = ⟨none, none, some source, target, none, none⟩) ∨
      (∃ n target, c = ⟨none, none, none, target, some n, none⟩) ∨
      ∃ steps target, c = ⟨none, none, none, target, none, some steps⟩ := by
  obtain ⟨_ | _, _ | _, _ | _, _, _ | _, _ | _⟩ := c <;> simp [kindsSet] at one ⊢

theorem pattern_names {names : List String} {target : Option RegexTarget} :
    (∃ p, (pattern id ⟨some names, none, none, target, none, none⟩ : Except (CatalogueError α) Pattern) =
      .ok p) ↔ ∃ s ∈ names, Text.isBlankText s = false := by
  rw [← filledTexts_ne_nil_iff]
  cases filled : filledTexts names <;> simp [pattern, filled]

theorem pattern_needles {texts : List String} {target : Option RegexTarget} :
    (∃ p, (pattern id ⟨none, some texts, none, target, none, none⟩ : Except (CatalogueError α) Pattern) =
      .ok p) ↔ ∃ s ∈ texts, Text.isBlankText s = false := by
  rw [← filledTexts_ne_nil_iff]
  cases filled : filledTexts texts <;> simp [pattern, filled]

theorem pattern_regex {source : String} {target : Option RegexTarget} :
    (∃ p, (pattern id ⟨none, none, some source, target, none, none⟩ : Except (CatalogueError α) Pattern) =
      .ok p) ↔ source ≠ "" ∧ (Regex.ofString? source).isSome := by
  by_cases empty : source = ""
  · simp [pattern, empty]
  · cases read : Regex.ofString? source <;> simp [pattern, empty, read]

theorem pattern_numbers {n : NumberEntry} {target : Option RegexTarget} :
    (∃ p, (pattern id ⟨none, none, none, target, some n, none⟩ : Except (CatalogueError α) Pattern) =
      .ok p) ↔ (n.values ≠ [] ∨ n.min.isSome ∨ n.max.isSome) ∧ n.min.getD 0 ≤ n.max.getD maxWord := by
  obtain ⟨values, min, max⟩ := n
  by_cases bounded : min.isSome ∨ max.isSome
  · have range : NumberEntry.range? ⟨values, min, max⟩ = some (min.getD 0, max.getD maxWord) := by
      cases min <;> cases max <;> simp [NumberEntry.range?] at bounded ⊢
    simp only [pattern, range, ite_error_ok_iff, exists_and_left]
    simp [bounded]
  · obtain ⟨rfl, rfl⟩ : min = none ∧ max = none := by simpa using bounded
    have least : (0 : UInt64) ≤ maxWord := UInt64.zero_le
    cases values <;> simp [pattern, NumberEntry.range?, least]

theorem pattern_window {steps : List StepEntry} {target : Option RegexTarget} :
    (∃ p, (pattern id ⟨none, none, none, target, none, some steps⟩ : Except (CatalogueError α) Pattern) =
      .ok p) ↔ steps ≠ [] ∧ ∀ s ∈ steps, s.Valid := by
  simp only [← StepEntry.toStep?_isSome, ← mapM_isSome]
  by_cases empty : steps = []
  · simp [pattern, empty]
  · cases read : steps.mapM StepEntry.toStep? <;> simp [pattern, empty, read]

theorem pattern_accepts_iff {c : ClauseEntry} (one : c.kindsSet = 1)
    (targeted : c.target.isSome → c.regex.isSome) :
    (∃ p, (c.pattern id : Except (CatalogueError α) Pattern) = .ok p) ↔ c.Valid := by
  rcases kindsSet_eq_one one with
    ⟨names, target, rfl⟩ | ⟨texts, target, rfl⟩ | ⟨source, target, rfl⟩ | ⟨n, target, rfl⟩ |
    ⟨steps, target, rfl⟩
  · obtain rfl : target = none := by simpa using targeted
    simp [pattern_names, valid_iff, ← kindsSet_eq_one_iff, one]
  · obtain rfl : target = none := by simpa using targeted
    simp [pattern_needles, valid_iff, ← kindsSet_eq_one_iff, one]
  · simp [pattern_regex, valid_iff, ← kindsSet_eq_one_iff, one]
  · obtain rfl : target = none := by simpa using targeted
    simp [pattern_numbers, valid_iff, ← kindsSet_eq_one_iff, one]
  · obtain rfl : target = none := by simpa using targeted
    simp [pattern_window, valid_iff, ← kindsSet_eq_one_iff, one]

theorem validate_ok_iff {c : ClauseEntry} {p : Pattern} :
    (c.validate id : Except (CatalogueError α) Pattern) = .ok p ↔
      c.kindsSet = 1 ∧ (c.target.isSome → c.regex.isSome) ∧
        (c.pattern id : Except (CatalogueError α) Pattern) = .ok p := by
  have aimless : (c.target.isSome && c.regex.isNone) = true ↔ ¬ (c.target.isSome → c.regex.isSome) := by
    cases c.target <;> cases c.regex <;> simp
  rw [validate, ite_error_ok_iff, ite_error_ok_iff, ite_error_ok_iff, aimless, not_not, not_not]
  exact and_iff_right_of_imp fun accepted => by simp [accepted.1]

/-- A clause is accepted exactly if it is valid. -/
theorem validate_accepts_iff {c : ClauseEntry} :
    (∃ p, (c.validate id : Except (CatalogueError α) Pattern) = .ok p) ↔ c.Valid := by
  simp only [validate_ok_iff, exists_and_left]
  constructor
  · rintro ⟨one, targeted, accepted⟩
    exact (pattern_accepts_iff one targeted).mp accepted
  · intro valid
    have one := kindsSet_eq_one_iff.mpr valid.oneKind
    exact ⟨one, valid.target, (pattern_accepts_iff one valid.target).mpr valid⟩

end ClauseEntry

/-! ## Signatures and rules -/

variable {α : Type} [Arithmetic α]

/-- A signature with a name, a weight in the interval from 0 to 1 other than 0, and valid clauses. -/
structure SignatureEntry.Valid (e : SignatureEntry α) : Prop where
  named : Text.isBlankText e.id = false
  positive : lt (ofNat 0) e.weight
  atMostOne : le e.weight (ofNat 1)
  filled : e.clauses ≠ []
  clauses : ∀ c ∈ e.clauses, c.Valid

theorem SignatureEntry.validate_accepts_iff {e : SignatureEntry α} {c : Category} {order : Nat} :
    (∃ s, e.validate c order = .ok s) ↔ e.Valid := by
  have each : (∃ clauses, List.Forall₂ (fun (c : ClauseEntry) p =>
      (c.validate (Text.trim e.id) : Except (CatalogueError α) Pattern) = .ok p) e.clauses clauses) ↔
      ∀ c ∈ e.clauses, c.Valid := by
    simp only [exists_forall₂_iff, ClauseEntry.validate_accepts_iff]
  simp only [validate_ok_iff, Text.trim_isEmpty, isWeight, Bool.and_eq_true]
  constructor
  · rintro ⟨_, named, ⟨positive, atMostOne⟩, filled, clauses, accepted, _⟩
    exact ⟨named, positive, atMostOne, filled, each.mp ⟨clauses, accepted⟩⟩
  · rintro ⟨named, positive, atMostOne, filled, valid⟩
    obtain ⟨clauses, accepted⟩ := each.mpr valid
    exact ⟨_, named, ⟨positive, atMostOne⟩, filled, clauses, accepted, rfl⟩

theorem SignatureEntry.validate_id {e : SignatureEntry α} {c : Category} {order : Nat} {s : Signature α}
    (accepted : e.validate c order = .ok s) : s.id = Text.trim e.id := by
  obtain ⟨_, _, _, _, _, rfl⟩ := SignatureEntry.validate_ok_iff.mp accepted
  rfl

/-- The references of a rule, as they are understood. -/
def RuleEntry.referred (e : RuleEntry α) : List String :=
  (e.signatures.map Text.trim).filter fun s => !s.isEmpty

/-- A rule with a name that ties several signatures, and a boost of at least 0 and less than 1. -/
structure RuleEntry.Valid (e : RuleEntry α) : Prop where
  named : Text.isBlankText e.id = false
  several : 2 ≤ e.referred.length
  apart : e.referred.Nodup
  nonneg : le (ofNat 0) e.boost
  belowOne : lt e.boost (ofNat 1)

theorem RuleEntry.validate_eq_ok_iff {e : RuleEntry α} {c : Category} {order : Nat} {r : Rule α} :
    e.validate c order = .ok r ↔ e.Valid ∧ e.toRule c order e.referred = r := by
  simp only [validate_ok_iff, references_ok_iff, Text.trim_isEmpty, isBoost, Bool.and_eq_true]
  constructor
  · rintro ⟨named, _, ⟨rfl, apart, _⟩, several, ⟨nonneg, belowOne⟩, same⟩
    exact ⟨⟨named, several, apart, nonneg, belowOne⟩, same⟩
  · rintro ⟨⟨named, several, apart, nonneg, belowOne⟩, same⟩
    exact ⟨named, _, ⟨rfl, apart, fun _ _ => List.not_mem_nil⟩, several, ⟨nonneg, belowOne⟩, same⟩

end TechniqueScan
