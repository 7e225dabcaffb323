import Mathlib.Tactic.SplitIfs
import TechniqueScan.Fact

/-!
Where evidence breaks into lines. What a string contributes to a description is escaped and never breaks
it; names, operands and conventions are shown as they are, and bring their own line breaks along.
-/

namespace TechniqueScan

namespace Text

/-- The characters that break a text into lines. -/
def lineBreaks : List Char := ['\n', '\r']

/-- The line breaks among some characters, in order. -/
def breaksAmong (cs : List Char) : List Char := cs.filter (· ∈ lineBreaks)

/-- The line breaks of a text, in order. -/
def breaks (s : String) : List Char := breaksAmong s.toList

theorem breaksAmong_append (cs cs' : List Char) :
    breaksAmong (cs ++ cs') = breaksAmong cs ++ breaksAmong cs' := List.filter_append ..

theorem breaksAmong_eq_nil_iff {cs : List Char} : breaksAmong cs = [] ↔ ∀ c ∈ cs, c ∉ lineBreaks := by
  simp [breaksAmong]

theorem breaks_append (s t : String) : breaks (s ++ t) = breaks s ++ breaks t := by
  rw [breaks, String.toList_append, breaksAmong_append, breaks, breaks]

theorem breaks_ofList (cs : List Char) : breaks (String.ofList cs) = breaksAmong cs := by
  rw [breaks, String.toList_ofList]

theorem mem_breaks {s : String} {b : Char} : b ∈ breaks s ↔ b ∈ s.toList ∧ b ∈ lineBreaks := by
  rw [breaks, breaksAmong, List.mem_filter, decide_eq_true_iff]

/-! ## Numbers -/

theorem digitChar_unbroken (n : Nat) : n.digitChar ∉ lineBreaks := by
  have newline := Nat.digitChar_ne (n := n) '\n' (by decide)
  have carriage := Nat.digitChar_ne (n := n) '\r' (by decide)
  simp [lineBreaks, newline, carriage]

theorem breaksAmong_digitChar (n : Nat) : breaksAmong [n.digitChar] = [] :=
  breaksAmong_eq_nil_iff.mpr (List.forall_mem_singleton.mpr (digitChar_unbroken n))

theorem breaksAmong_toDigits {base : Nat} (several : 1 < base) (n : Nat) :
    breaksAmong (Nat.toDigits base n) = [] := by
  induction n using Nat.strongRecOn with
  | ind n ih =>
    rw [Nat.toDigits_eq_if several]
    split
    case isTrue => exact breaksAmong_digitChar n
    case isFalse large =>
      have smaller : n / base < n := Nat.div_lt_self (by omega) several
      rw [breaksAmong_append, ih _ smaller, breaksAmong_digitChar, List.append_nil]

theorem breaks_hexText (width n : Nat) : breaks (hexText width n) = [] := by
  have digits : breaksAmong (hexDigits n) = [] := breaksAmong_toDigits (by decide) n
  have zeros (k : Nat) : breaksAmong (List.replicate k '0') = [] := by
    refine breaksAmong_eq_nil_iff.mpr ?_
    intro c zero
    rw [List.eq_of_mem_replicate zero]
    decide
  rw [hexText, breaks_ofList, breaksAmong_append, zeros, digits, List.append_nil]

theorem breaks_toString (n : Nat) : breaks (toString n) = [] :=
  (breaks_ofList _).trans (breaksAmong_toDigits (by decide) n)

/-! ## Escaped texts -/

theorem breaksAmong_escapeCode (c : Char) : breaksAmong (escapeCode c) = [] := by
  have digits : breaksAmong (hexDigits c.toNat) = [] := breaksAmong_toDigits (by decide) _
  calc breaksAmong (escapeCode c)
    _ = breaksAmong ['\\', 'u', '\x7b'] ++ (breaksAmong (hexDigits c.toNat) ++ breaksAmong ['\x7d']) := by
      rw [← breaksAmong_append, ← breaksAmong_append]
      rfl
    _ = [] := by
      rw [digits]
      decide

/-- Line breaks are among the characters that have an escape of their own. -/
theorem breaksAmong_escapeChar (style : EscapeStyle) (c : Char) : breaksAmong (escapeChar style c) = [] := by
  unfold escapeChar
  split_ifs with nul tab carriage newline mark quote single combining printable
  · decide
  · decide
  · decide
  · decide
  · rcases mark with rfl | rfl
    · decide
    · decide
  · subst quote
    decide
  · subst quote
    decide
  · exact breaksAmong_escapeCode c
  · refine breaksAmong_eq_nil_iff.mpr (List.forall_mem_singleton.mpr ?_)
    simp [lineBreaks, newline, carriage]
  · exact breaksAmong_escapeCode c

theorem breaksAmong_escapeChars (cs : List Char) : breaksAmong (escapeChars cs) = [] := by
  cases cs with
  | nil => rfl
  | cons c rest =>
    have later : breaksAmong (rest.flatMap (escapeChar ⟨true, false⟩)) = [] := by
      rw [breaksAmong, List.filter_flatMap]
      exact List.flatMap_eq_nil_iff.mpr fun d _ => breaksAmong_escapeChar _ d
    rw [escapeChars, breaksAmong_append, breaksAmong_escapeChar, later, List.append_nil]

end Text

namespace Fact

theorem breaks_shownString (s : String) : Text.breaks (shownString s) = [] := by
  have escaped := Text.breaksAmong_escapeChars s.toList
  unfold shownString
  dsimp only
  split
  · rw [Text.breaks_ofList, escaped]
  · have shown : Text.breaksAmong ((Text.escapeChars s.toList).take shownCharacters) = [] :=
      Text.breaksAmong_eq_nil_iff.mpr fun c member =>
        Text.breaksAmong_eq_nil_iff.mp escaped c (List.mem_of_mem_take member)
    rw [Text.breaks_ofList, Text.breaksAmong_append, shown]
    decide

theorem breaks_hexNumber (n : UInt64) : Text.breaks (hexNumber n) = [] := by
  rw [hexNumber, Text.breaks_append, Text.breaks_hexText]
  decide

/-! ## Descriptions -/

/-- The texts of an observation that are shown as they are. -/
def bareTextsOf : Observation → List String
  | .symbol name _ => [name]
  | .string _ => []
  | .number .. => []
  | .instruction i => [i.mnemonic, i.operands]
  | .reference r => r.targetName.toList

/-- The texts of a fact that its description shows as they are, in order. -/
def bareTexts (f : Fact) : List String :=
  f.scope.procedureName?.toList ++ bareTextsOf f.seen
    ++ (f.context.bind CallContext.convention).toList

theorem breaks_scope (s : Scope) : Text.breaks s.toText = s.procedureName?.toList.flatMap Text.breaks := by
  cases s with
  | whole => decide
  | procedure name => exact (List.flatMap_singleton ..).symm

theorem breaks_observation (o : Observation) :
    Text.breaks (describeObservation o) = (bareTextsOf o).flatMap Text.breaks := by
  cases o with
  | symbol name kind =>
    have kindName : Text.breaks kind.name = [] := by cases kind <;> decide
    have words : Text.breaks " symbol '" = [] ∧ Text.breaks "'" = [] := by decide
    simp [describeObservation, bareTextsOf, Text.breaks_append, kindName, words]
  | string value =>
    have words : Text.breaks "string \"" = [] ∧ Text.breaks "\"" = [] := by decide
    simp [describeObservation, bareTextsOf, Text.breaks_append, breaks_shownString, words]
  | number value index =>
    have words : Text.breaks "constant " = [] ∧ Text.breaks " (" = [] ∧ Text.breaks ")" = [] := by decide
    simp only [describeObservation, bareTextsOf, Text.breaks_append, breaks_hexNumber, Text.breaks_toString,
      words]
    rfl
  | instruction i =>
    have words : Text.breaks "insn " = [] ∧ Text.breaks " " = [] ∧ Text.breaks "" = [] := by decide
    by_cases bare : i.operands.isEmpty
    · have none : i.operands = "" := by simpa using bare
      simp [describeObservation, bareTextsOf, Text.breaks_append, none, words]
    · simp [describeObservation, bareTextsOf, Text.breaks_append, bare, words]
  | reference r =>
    have kindName : Text.breaks r.kind.name = [] := by cases r.kind <;> decide
    have arrow : Text.breaks " -> " = [] := by decide
    cases named : r.targetName with
    | none =>
      simp [describeObservation, bareTextsOf, Text.breaks_append, named, kindName, arrow, breaks_hexNumber]
    | some name => simp [describeObservation, bareTextsOf, Text.breaks_append, named, kindName, arrow]

theorem breaks_context (c : CallContext) :
    Text.breaks (describeContext c) = c.convention.toList.flatMap Text.breaks := by
  have words : Text.breaks " cc=" = [] ∧ Text.breaks " argc=" = [] := by decide
  rw [describeContext, Text.breaks_append]
  -- Only the convention is a text; the number of arguments adds no break.
  refine (congr (congrArg _ ?convention) ?count).trans (List.append_nil _)
  case convention =>
    cases c.convention with
    | none => decide
    | some name => simp [Text.breaks_append, words]
  case count =>
    cases c.argumentCount with
    | none => decide
    | some count => rw [Text.breaks_append, words.2, Text.breaks_toString, List.append_nil]

/-- The line breaks of a description are those of the texts that it shows as they are. -/
theorem breaks_describe (f : Fact) : Text.breaks f.describe = f.bareTexts.flatMap Text.breaks := by
  obtain ⟨location, seen, context⟩ := f
  have words : Text.breaks "0x" = [] ∧ Text.breaks " [" = [] ∧ Text.breaks "] " = [] ∧
      Text.breaks "" = [] := by decide
  cases context with
  | none =>
    simp [describe, bareTexts, Text.breaks_append, Text.breaks_hexText, breaks_scope, breaks_observation,
      words]
  | some c =>
    simp [describe, bareTexts, Text.breaks_append, Text.breaks_hexText, breaks_scope, breaks_observation,
      breaks_context, words]

theorem newline_mem_describe (f : Fact) :
    '\n' ∈ f.describe.toList ↔ ∃ t ∈ f.bareTexts, '\n' ∈ t.toList := by
  have isBreak : '\n' ∈ Text.lineBreaks := List.mem_cons_self
  have same : '\n' ∈ Text.breaks f.describe ↔ ∃ t ∈ f.bareTexts, '\n' ∈ Text.breaks t := by
    rw [breaks_describe, List.mem_flatMap]
  simpa only [Text.mem_breaks, isBreak, and_true] using same

end Fact

end TechniqueScan
