import TechniqueScan.Proofs.Except
import TechniqueScan.Proofs.FactModel
import TechniqueScan.Provider.SnapshotFile

/-!
The scopes in which the entries of a snapshot lie. The text of a procedure denotes one scope, whatever
list it stands in, except that an instruction is always in a procedure: it lies in the one of its text
even where that text stands for the binary as a whole.
-/

namespace TechniqueScan

namespace Scope

theorem ofText?_eq_whole_iff (p : Option String) :
    ofText? p = .whole ↔ p = none ∨ p = some "" ∨ p = some wholeText := by
  cases p with
  | none => simp [ofText?]
  | some s =>
    rw [ofText?, ofText]
    by_cases standsForAll : s.isEmpty || s = wholeText
    · rw [if_pos standsForAll]
      simpa using standsForAll
    · rw [if_neg standsForAll]
      simpa using standsForAll

theorem ofText?_eq_procedure_iff (p : Option String) (name : String) :
    ofText? p = .procedure name ↔ p = some name ∧ name ≠ "" ∧ name ≠ wholeText := by
  cases p with
  | none => simp [ofText?]
  | some s =>
    rw [ofText?, ofText]
    by_cases standsForAll : s.isEmpty || s = wholeText
    · rw [if_pos standsForAll]
      simp only [reduceCtorEq, Option.some.injEq, false_iff, not_and, not_not]
      rintro rfl filled
      simpa [filled] using standsForAll
    · rw [if_neg standsForAll]
      simp only [procedure.injEq, Option.some.injEq, iff_self_and]
      rintro rfl
      simpa using standsForAll

/-- A name that reads back as the whole binary is empty or the text that stands for it. -/
theorem ofText_eq_whole_iff (s : String) : ofText s = .whole ↔ s = "" ∨ s = wholeText := by
  simpa [ofText?] using ofText?_eq_whole_iff (some s)

end Scope

namespace Snapshot

/-! ## Entries -/

/-- An entry of one of the lists of a snapshot. -/
inductive Entry where
  | symbol (s : Symbol)
  | literal (l : Literal)
  | constant (c : Constant)
  | code (c : Code)
  | link (l : Link)

namespace Entry

/-- The text of the procedure that an entry names. -/
def procedure? : Entry → Option String
  | symbol s => s.procedure
  | literal l => l.procedure
  | constant c => c.procedure
  | code c => some c.procedure
  | link l => l.procedure

def fact : Entry → Fact
  | symbol s => s.fact
  | literal l => l.fact
  | constant c => c.fact
  | code c => c.fact
  | link l => l.fact

def isCode : Entry → Bool
  | code _ => true
  | _ => false

theorem eq_code_of_isCode {e : Entry} (isCode : e.isCode) : ∃ c, e = code c := by
  cases e with
  | code c => exact ⟨c, rfl⟩
  | _ => cases isCode

/-- The scope in which the fact of an entry lies. -/
def scope (e : Entry) : Scope := e.fact.normal.scope

theorem scope_of_isCode {e : Entry} (isCode : e.isCode) (name : String) :
    e.scope = .procedure name ↔ e.procedure? = some name := by
  rw [scope, Fact.normal_scope]
  cases e with
  | code c => simp [fact, Code.fact, Fact.scope, procedure?]
  | _ => cases isCode

theorem scope_of_not_isCode {e : Entry} (noCode : e.isCode = false) :
    e.scope = Scope.ofText? e.procedure? := by
  rw [scope, Fact.normal_scope]
  cases e with
  | code c => cases noCode
  | _ => rfl

theorem scope_ne_whole_of_isCode {e : Entry} (isCode : e.isCode) : e.scope ≠ .whole := by
  obtain ⟨c, rfl⟩ := eq_code_of_isCode isCode
  rw [(scope_of_isCode isCode c.procedure).mpr rfl]
  exact Scope.noConfusion

end Entry

/-- The entries of all lists. -/
def entries (s : Snapshot) : List Entry :=
  s.symbols.map .symbol ++ s.strings.map .literal ++ s.constants.map .constant
    ++ s.instructions.map .code ++ s.references.map .link

theorem facts_eq (s : Snapshot) : s.facts = s.entries.map Entry.fact := by
  simp [facts, entries, List.map_append, List.map_map, Function.comp_def, Entry.fact]

theorem mem_entries_code {s : Snapshot} {c : Code} : .code c ∈ s.entries ↔ c ∈ s.instructions := by
  simp [entries]

/-! ## Scopes -/

/-- What the procedure texts of a snapshot denote. -/
structure DenotesScopes (s : Snapshot) : Prop where
  /-- The facts of the entries, in normal form, are those of the model. -/
  mem_model : ∀ f, f ∈ s.model.facts ↔ ∃ e ∈ s.entries, e.fact.normal = f
  whole_iff : ∀ e ∈ s.entries, e.scope = .whole ↔ e.isCode = false ∧
    (e.procedure? = none ∨ e.procedure? = some "" ∨ e.procedure? = some Scope.wholeText)
  procedure_iff : ∀ e ∈ s.entries, ∀ name, e.scope = .procedure name ↔
    e.procedure? = some name ∧ name ≠ "" ∧ (name = Scope.wholeText → e.isCode)
  /-- Entries of the same text lie in the same scope, unless the text stands for the whole binary and
  only one of them is an instruction. -/
  same : ∀ e ∈ s.entries, ∀ e' ∈ s.entries, e.procedure? = e'.procedure? →
    (e.scope = e'.scope ↔ e.procedure? = some Scope.wholeText → e.isCode = e'.isCode)
  /-- A procedure of the model reads back as the whole binary only through an instruction. -/
  misread_iff : (∃ f ∈ s.model.facts, ∃ name, f.scope = .procedure name ∧ Scope.ofText name = .whole) ↔
    ∃ c ∈ s.instructions, c.procedure = Scope.wholeText

/-- In a file that is accepted, no instruction comes without a procedure. -/
theorem ofFile_code_ne_empty {path : String} {content : ByteArray} {s : Snapshot}
    (accepted : ofFile path content = .ok s) : ∀ c ∈ s.instructions, c.procedure ≠ "" := by
  have noStray : s.strayInstruction? = none := by
    unfold ofFile at accepted
    split at accepted
    · cases accepted
    · split at accepted
      · cases accepted
      · rename_i noStray
        cases accepted
        exact noStray
  intro c member empty
  have named := List.find?_eq_none.mp noStray c member
  rw [empty] at named
  exact named rfl

section

variable {s : Snapshot} (coded : ∀ c ∈ s.instructions, c.procedure ≠ "")

include coded

theorem scope_eq_procedure_iff {e : Entry} (member : e ∈ s.entries) (name : String) :
    e.scope = .procedure name ↔
      e.procedure? = some name ∧ name ≠ "" ∧ (name = Scope.wholeText → e.isCode) := by
  cases isCode : e.isCode with
  | true =>
    rw [Entry.scope_of_isCode isCode]
    simp only [implies_true, and_true, iff_self_and]
    rintro named rfl
    obtain ⟨c, rfl⟩ := Entry.eq_code_of_isCode isCode
    exact coded c (mem_entries_code.mp member) (Option.some.inj named)
  | false =>
    rw [Entry.scope_of_not_isCode isCode, Scope.ofText?_eq_procedure_iff]
    simp

/-- An instruction and another entry of the same text part only over the text for the whole binary. -/
theorem code_scope_eq_iff {c : Code} {e : Entry} (code : .code c ∈ s.entries) (member : e ∈ s.entries)
    (noCode : e.isCode = false) (same : e.procedure? = some c.procedure) :
    (Entry.code c).scope = e.scope ↔ c.procedure ≠ Scope.wholeText := by
  have filled := coded c (mem_entries_code.mp code)
  rw [(Entry.scope_of_isCode rfl c.procedure).mpr rfl, eq_comm, scope_eq_procedure_iff coded member]
  simp [same, noCode, filled]

theorem scope_eq_iff {e e' : Entry} (member : e ∈ s.entries) (member' : e' ∈ s.entries)
    (same : e.procedure? = e'.procedure?) :
    e.scope = e'.scope ↔ (e.procedure? = some Scope.wholeText → e.isCode = e'.isCode) := by
  cases isCode : e.isCode with
  | true =>
    obtain ⟨c, rfl⟩ := Entry.eq_code_of_isCode isCode
    cases isCode' : e'.isCode with
    | true =>
      rw [(Entry.scope_of_isCode isCode c.procedure).mpr rfl, eq_comm,
        Entry.scope_of_isCode isCode', ← same]
      simp [Entry.procedure?]
    | false =>
      rw [code_scope_eq_iff coded member member' isCode' same.symm]
      simp [Entry.procedure?]
  | false =>
    cases isCode' : e'.isCode with
    | true =>
      obtain ⟨c, rfl⟩ := Entry.eq_code_of_isCode isCode'
      rw [eq_comm, code_scope_eq_iff coded member' member isCode same, same]
      simp [Entry.procedure?]
    | false =>
      rw [Entry.scope_of_not_isCode isCode, Entry.scope_of_not_isCode isCode', same]
      simp

end

theorem scope_eq_whole_iff (e : Entry) :
    e.scope = .whole ↔ e.isCode = false ∧
      (e.procedure? = none ∨ e.procedure? = some "" ∨ e.procedure? = some Scope.wholeText) := by
  cases isCode : e.isCode with
  | true => simpa using Entry.scope_ne_whole_of_isCode isCode
  | false =>
    rw [Entry.scope_of_not_isCode isCode, Scope.ofText?_eq_whole_iff]
    simp

theorem mem_model_iff (s : Snapshot) (f : Fact) :
    f ∈ s.model.facts ↔ ∃ e ∈ s.entries, e.fact.normal = f := by
  rw [model, FactModel.mem_ofFacts, facts_eq, List.map_map, List.mem_map]
  rfl

theorem ofFile_denotesScopes {path : String} {content : ByteArray} {s : Snapshot}
    (accepted : ofFile path content = .ok s) : s.DenotesScopes := by
  have coded := ofFile_code_ne_empty accepted
  refine ⟨mem_model_iff s, fun e _ => scope_eq_whole_iff e,
    fun e member => scope_eq_procedure_iff coded member,
    fun e member e' member' => scope_eq_iff coded member member', ?_⟩
  constructor
  · rintro ⟨f, kept, name, inside, misread⟩
    obtain ⟨e, member, rfl⟩ := (mem_model_iff s f).mp kept
    obtain ⟨named, filled, isCode⟩ := (scope_eq_procedure_iff coded member name).mp inside
    obtain rfl := ((Scope.ofText_eq_whole_iff name).mp misread).resolve_left filled
    obtain ⟨c, rfl⟩ := Entry.eq_code_of_isCode (isCode rfl)
    exact ⟨c, mem_entries_code.mp member, Option.some.inj named⟩
  · rintro ⟨c, member, named⟩
    refine ⟨_, (mem_model_iff s _).mpr ⟨.code c, mem_entries_code.mpr member, rfl⟩, Scope.wholeText, ?_, ?_⟩
    · exact (Entry.scope_of_isCode rfl _).mpr (congrArg some named)
    · exact (Scope.ofText_eq_whole_iff _).mpr (.inr rfl)

/-- A file with a symbol and an instruction, both under the text that stands for the whole binary. -/
def wholeTexts : String :=
  "\x7b\"binary\": \"sample\", "
    ++ "\"symbols\": [\x7b\"name\": \"ptrace\", \"procedure\": \"<global>\", \"address\": 12\x7d], "
    ++ "\"instructions\": [\x7b\"procedure\": \"<global>\", \"address\": 16, \"mnemonic\": \"ret\"\x7d]\x7d"

theorem wholeTexts_read : ∃ s a c, ofFile "s.json" wholeTexts.toUTF8 = .ok s ∧
    s.symbols = [a] ∧ a.procedure = some Scope.wholeText ∧
    s.instructions = [c] ∧ c.procedure = Scope.wholeText := by
  have read : (ofFile "s.json" wholeTexts.toUTF8).toOption.map (fun s =>
      (s.symbols.map (·.procedure), s.instructions.map (·.procedure))) =
        some ([some Scope.wholeText], [Scope.wholeText]) := by decide +kernel
  obtain ⟨s, accepted, same⟩ := Option.map_eq_some_iff.mp read
  rw [Prod.mk.injEq, List.map_eq_singleton_iff, List.map_eq_singleton_iff] at same
  obtain ⟨⟨a, symbols, named⟩, c, instructions, named'⟩ := same
  exact ⟨s, a, c, toOption_eq_some_iff.mp accepted, symbols, named, instructions, named'⟩

theorem ofFile_denotesScopes_wholeTexts :
    ∃ s, ofFile "s.json" wholeTexts.toUTF8 = .ok s ∧ s.DenotesScopes := by
  obtain ⟨s, _, _, accepted, _⟩ := wholeTexts_read
  exact ⟨s, accepted, ofFile_denotesScopes accepted⟩

/-- One text, two scopes: the symbol lies in the whole binary, the instruction in a procedure. -/
theorem wholeTexts_scopes_differ :
    ∃ s, ofFile "s.json" wholeTexts.toUTF8 = .ok s ∧ ∃ e ∈ s.entries, ∃ e' ∈ s.entries,
      e.procedure? = some Scope.wholeText ∧ e'.procedure? = some Scope.wholeText ∧
      e.scope = .whole ∧ e'.scope = .procedure Scope.wholeText := by
  obtain ⟨s, a, c, accepted, symbols, named, instructions, named'⟩ := wholeTexts_read
  refine ⟨s, accepted, .symbol a, ?_, .code c, ?_, named, congrArg some named', ?_, ?_⟩
  · simp [entries, symbols]
  · simp [entries, instructions]
  · exact (scope_eq_whole_iff _).mpr ⟨rfl, .inr (.inr named)⟩
  · exact (Entry.scope_of_isCode rfl _).mpr (congrArg some named')

end Snapshot

end TechniqueScan
