import TechniqueScan.Proofs.Binary.Texts
import TechniqueScan.Proofs.Provider.Scopes

/-!
The texts of disassembled binaries. Every text that is kept is told, at an instruction that refers to it or
else for the binary as a whole, and no other text is. A text that was lost from the table is told nowhere.
-/

namespace TechniqueScan.Disassembly

open Binary Machine

namespace Context

variable {x : Context} {content : ByteArray}

theorem string?_eq_some_iff (once : (x.strings.map (·.1)).Nodup) {a : UInt64} {t : String} :
    x.string? a = some t ↔ (a, t) ∈ x.strings := by
  rw [string?, List.lookup_eq_some_iff]
  constructor
  · rintro ⟨before, after, split, _⟩
    simp [split]
  · intro member
    obtain ⟨before, after, split⟩ := List.append_of_mem member
    refine ⟨before, after, split, fun e earlier => ?_⟩
    rw [split, List.map_append, List.map_cons] at once
    have apart := (List.nodup_append.mp once).2.2 e.1 (List.mem_map_of_mem earlier) a List.mem_cons_self
    simpa using Ne.symm apart

/-- The fact that a text stands for: at its own address, or at an instruction that refers to that one. -/
def TextFact (x : Context) (content : ByteArray) (a : UInt64) (t : String) (f : Fact) : Prop :=
  f = ⟨⟨.whole, a⟩, .string t, none⟩ ∨ ∃ p ∈ x.image.procedures, ∃ here d,
    (here, d) ∈ x.instructions p content ∧ a ∈ x.referredStrings d ∧
      f = ⟨⟨.procedure p.name, here⟩, .string t, none⟩

theorem TextFact.seen {a : UInt64} {t : String} {f : Fact} (textFact : x.TextFact content a t f) :
    f.seen = .string t := by
  rcases textFact with rfl | ⟨_, _, _, _, _, _, rfl⟩ <;> rfl

/-- A fact on a text is kept as it is. -/
theorem normal_of_string {f : Fact} {t : String} (text : f.seen = .string t) : f.normal = f := by
  rw [Fact.normal, text]

/-- What is kept as a text was one before. -/
theorem string_of_normal {f : Fact} {t : String} (text : f.normal.seen = .string t) : f.seen = .string t := by
  unfold Fact.normal at text
  split at text
  · cases text
  · exact text

/-- Every text in the table is told. -/
theorem exists_textFact (once : (x.strings.map (·.1)).Nodup) {a : UInt64} {t : String}
    (kept : (a, t) ∈ x.strings) : ∃ f ∈ x.facts content, x.TextFact content a t f := by
  have found := (string?_eq_some_iff once).mpr kept
  by_cases referred : a ∈ x.referred content
  · obtain ⟨p, listed, inside⟩ := List.mem_flatMap.mp referred
    obtain ⟨⟨here, d⟩, decoded, refers⟩ := List.mem_flatMap.mp inside
    refine ⟨⟨⟨.procedure p.name, here⟩, .string t, none⟩, ?_, .inr ⟨p, listed, here, d, decoded, refers, rfl⟩⟩
    have said : (⟨⟨.procedure p.name, here⟩, .string t, none⟩ : Fact) ∈ x.instructionFacts p here d :=
      List.mem_append_right _ (List.mem_filterMap.mpr ⟨a, refers, by rw [found]; rfl⟩)
    simp only [facts, List.mem_append, List.mem_flatMap]
    exact .inl (.inr ⟨p, listed, List.mem_flatMap.mpr ⟨(here, d), decoded, said⟩⟩)
  · refine ⟨_, ?_, .inl rfl⟩
    simp only [facts, List.mem_append, List.mem_map]
    exact .inr ⟨(a, t), List.mem_filter.mpr ⟨kept, by simpa using referred⟩, rfl⟩

/-- Nothing else is told as a text. -/
theorem mem_strings_of_told (once : (x.strings.map (·.1)).Nodup) {f : Fact} {t : String}
    (said : f ∈ x.facts content) (text : f.seen = .string t) :
    ∃ a, (a, t) ∈ x.strings ∧ x.TextFact content a t f := by
  simp only [facts, List.mem_append, List.mem_map, List.mem_flatMap] at said
  rcases said with ((⟨_, _, rfl⟩ | ⟨_, _, rfl⟩) | ⟨p, listed, said⟩) | ⟨⟨a, u⟩, kept, rfl⟩
  · cases text
  · cases text
  · obtain ⟨⟨here, d⟩, decoded, said⟩ := List.mem_flatMap.mp said
    change f ∈ x.instructionFacts p here d at said
    rw [instructionFacts, List.mem_append, List.mem_cons, List.mem_filterMap] at said
    rcases said with (rfl | member) | ⟨a, refers, same⟩
    · cases text
    · split at member
      · rw [List.mem_singleton.mp member] at text
        cases text
      · obtain ⟨_, _, rfl⟩ := List.mem_map.mp member
        cases text
    · obtain ⟨u, found, rfl⟩ := Option.map_eq_some_iff.mp same
      cases text
      exact ⟨a, (string?_eq_some_iff once).mp found, .inr ⟨p, listed, here, d, decoded, refers, rfl⟩⟩
  · cases text
    exact ⟨a, (List.mem_filter.mp kept).1, .inl rfl⟩

/-- Which texts of the sections of an image are kept, and where a model tells them. -/
structure TellsTexts (x : Context) (content : ByteArray) (binaryId : String) : Prop where
  table : x.strings = x.image.strings content
  keeps : x.image.KeepsTexts content
  /-- What is kept is told: at its address, or where an instruction refers to that. -/
  told : ∀ a t, (a, t) ∈ x.strings →
    ∃ f ∈ (FactModel.ofFacts binaryId (x.facts content)).facts, x.TextFact content a t f
  /-- No other text is told. -/
  only : ∀ f ∈ (FactModel.ofFacts binaryId (x.facts content)).facts, ∀ t, f.seen = .string t →
    ∃ a, (a, t) ∈ x.strings ∧ x.TextFact content a t f
  /-- Every text of a section is told where sections agree. -/
  complete : x.image.TextsAgree content → ∀ s ∈ x.image.sections, ∀ a t, s.Holds content a t →
    ∃ f ∈ (FactModel.ofFacts binaryId (x.facts content)).facts, x.TextFact content a t f

theorem tellsTexts_of_table (table : x.strings = x.image.strings content) (binaryId : String) :
    x.TellsTexts content binaryId := by
  have once : (x.strings.map (·.1)).Nodup := by
    rw [table]
    exact x.image.strings_nodup content
  have told : ∀ a t, (a, t) ∈ x.strings →
      ∃ f ∈ (FactModel.ofFacts binaryId (x.facts content)).facts, x.TextFact content a t f := by
    intro a t kept
    obtain ⟨f, said, textFact⟩ := exists_textFact once kept
    refine ⟨f, ?_, textFact⟩
    rw [FactModel.mem_ofFacts, ← normal_of_string textFact.seen]
    exact List.mem_map_of_mem said
  refine ⟨table, x.image.strings_keepsTexts content, told, ?_, ?_⟩
  · intro f listed t text
    obtain ⟨g, said, rfl⟩ := List.mem_map.mp ((FactModel.mem_ofFacts _ _ _).mp listed)
    have text' := string_of_normal text
    rw [normal_of_string text']
    exact mem_strings_of_told once said text'
  · intro agree s listed a t holds
    have kept := (x.image.strings_keepsTexts content).lossless_iff.mpr agree s listed a t holds
    rw [← table] at kept
    exact told a t kept

end Context

open Context

/-- The texts that are kept of the sections of an image are told, and no others, whatever is decoded. -/
theorem texts_told (i : Image) (content : ByteArray) (decode : Decoder) (budget : Nat)
    (binaryId : String) : TellsTexts ⟨i, i.strings content, decode, budget⟩ content binaryId :=
  tellsTexts_of_table rfl binaryId

/-- Every model that is read from a file tells the texts that are kept of its sections. -/
theorem factsOfFile_tellsTexts {q : FactRequest} {content : ByteArray} {m : FactModel}
    (read : factsOfFile q content = .ok m) :
    ∃ x : Context, m = .ofFacts (identifier q.path content) (x.facts content) ∧
      x.TellsTexts content (identifier q.path content) := by
  obtain ⟨i, decode, budget, rfl⟩ := factsOfFile_settled read
  exact ⟨_, rfl, tellsTexts_of_table rfl _⟩

/-! ## Two texts at one address -/

/-- A relocatable file with two sections of texts, both of which begin at address zero. -/
def doors : Elf.File where
  header := ⟨62, 0, 0, 0, 0, 3, 0⟩
  sections := [⟨0, 0, 0, 0, 0, 0, 0, 0⟩, ⟨1, 1, 0, 0, 10, 0, 0, 0⟩, ⟨9, 1, 0, 10, 10, 0, 0, 0⟩]
  sectionNames := ⟨"\x00.rodata\x00.rodata.str1.1\x00".toUTF8⟩
  symbols := []
  names := {}
  dynamicSymbols := []
  dynamicNames := {}
  entries := []

/-- One text in each of the sections. -/
def doorsContent : ByteArray := "open door\x00shut gate\x00".toUTF8

theorem doors_sections : (Elf.image doors).sections =
    [⟨"", 0, 0, 0, false⟩, ⟨".rodata", 0, 10, 0, false⟩, ⟨".rodata.str1.1", 0, 10, 10, false⟩] := by
  decide +kernel

theorem doors_strings : (Elf.image doors).strings doorsContent = [(0, "shut gate")] := by
  decide +kernel

/-- The text of the first section has no place in the table, and no model tells it. -/
theorem doors_lost : ∃ s ∈ (Elf.image doors).sections, s.Holds doorsContent 0 "open door" ∧
    (0, "open door") ∉ (Elf.image doors).strings doorsContent ∧
    ∀ decode budget binaryId, ∀ f ∈ (FactModel.ofFacts binaryId (Context.facts
      ⟨Elf.image doors, (Elf.image doors).strings doorsContent, decode, budget⟩ doorsContent)).facts,
      f.seen ≠ .string "open door" := by
  have absent : ∀ a, (a, "open door") ∉ (Elf.image doors).strings doorsContent := by
    simp [doors_strings]
  refine ⟨⟨".rodata", 0, 10, 0, false⟩, by simp [doors_sections], ?_, absent 0, ?_⟩
  · refine ⟨by decide +kernel, [], "open door".toUTF8.data.toList, [0], by decide +kernel, ?_, rfl, rfl⟩
    refine ⟨by decide +kernel, by decide +kernel, by simp, ?_⟩
    rintro b ⟨⟩
    decide
  · intro decode budget binaryId f listed text
    obtain ⟨a, kept, _⟩ := (tellsTexts_of_table rfl binaryId).only f listed _ text
    exact absent a kept

end TechniqueScan.Disassembly
