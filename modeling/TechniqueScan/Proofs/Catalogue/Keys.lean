import TechniqueScan.Catalogue.Registry
import TechniqueScan.Proofs.Document.Accepted
import TechniqueScan.Proofs.Except

/-!
Misspelt keys of a catalogue. A file in which a key is misspelt is refused wherever the key stands,
except in the steps of windows: there a key that means nothing is passed over, and the step asks for
what its other keys say.
-/

namespace TechniqueScan

open Document

/-- The parts of a catalogue file that are tables. -/
inductive CataloguePart where
  | file | signature | clause | numbers | step | rule
  deriving DecidableEq, Repr

namespace CataloguePart

/-- The keys that a part can have. -/
def names : CataloguePart → List String
  | file => ["version", "category", "signatures", "rules"]
  | signature => ["id", "description", "weight", "match"]
  | clause => ["symbols", "strings", "regex", "on", "numbers", "opcodes"]
  | numbers => ["values", "min", "max"]
  | step => ["mnemonic", "operands"]
  | rule => ["id", "description", "signatures", "boost"]

/-- The clauses of all signatures of a document. -/
def clausesIn (document : Value) : List Value :=
  (document.itemsNamed "signatures").flatMap (Value.itemsNamed "match")

/-- The values that stand for the parts of a kind. -/
def valuesIn (document : Value) : CataloguePart → List Value
  | file => [document]
  | signature => document.itemsNamed "signatures"
  | clause => clausesIn document
  | numbers => (clausesIn document).flatMap (Value.fieldsNamed "numbers")
  | step => (clausesIn document).flatMap (Value.itemsNamed "opcodes")
  | rule => document.itemsNamed "rules"

/-- Whether a document has a part of a kind with a key that such parts do not have. -/
def misspeltIn (document : Value) (part : CataloguePart) : Bool :=
  (part.valuesIn document).any (Value.isMisspelt part.names)

end CataloguePart

/-! ## Parts of an accepted file -/

theorem CatalogueFile.decode_accepted {v : Value} (accepted : (decode v).Accepted) :
    v.isMisspelt CataloguePart.file.names = false ∧
      (∀ w ∈ v.itemsNamed "signatures", (SignatureEntry.decode w).Accepted) ∧
      ∀ w ∈ v.itemsNamed "rules", (RuleEntry.decode w).Accepted := by
  obtain ⟨r, strict, fields⟩ := (Decoded.accepted_andThen _ _).mp accepted
  simp only [Decoded.accepted_seq, Decoded.accepted_map] at fields
  obtain ⟨⟨_, signatures⟩, rules⟩ := fields
  exact ⟨(asStrictRecord_ok strict).1, Record.accepted_items strict (by decide) signatures,
    Record.accepted_items strict (by decide) rules⟩

theorem SignatureEntry.decode_accepted {v : Value} (accepted : (decode v).Accepted) :
    v.isMisspelt CataloguePart.signature.names = false ∧
      ∀ w ∈ v.itemsNamed "match", (ClauseEntry.decode w).Accepted := by
  obtain ⟨r, strict, fields⟩ := (Decoded.accepted_andThen _ _).mp accepted
  simp only [Decoded.accepted_seq, Decoded.accepted_map] at fields
  obtain ⟨_, clauses⟩ := fields
  exact ⟨(asStrictRecord_ok strict).1, Record.accepted_items strict (by decide) clauses⟩

theorem RuleEntry.decode_accepted {v : Value} (accepted : (decode v).Accepted) :
    v.isMisspelt CataloguePart.rule.names = false := by
  obtain ⟨r, strict, _⟩ := (Decoded.accepted_andThen _ _).mp accepted
  exact (asStrictRecord_ok strict).1

theorem NumberEntry.decode_accepted {v : Value} (accepted : (decode v).Accepted) :
    v.isMisspelt CataloguePart.numbers.names = false := by
  obtain ⟨r, strict, _⟩ := (Decoded.accepted_andThen _ _).mp accepted
  exact (asStrictRecord_ok strict).1

theorem ClauseEntry.decode_accepted {v : Value} (accepted : (decode v).Accepted) :
    v.isMisspelt CataloguePart.clause.names = false ∧
      (∀ w ∈ v.fieldsNamed "numbers", w.isMisspelt CataloguePart.numbers.names = false) ∧
      ∀ w ∈ v.itemsNamed "opcodes", (StepEntry.decode w).Accepted := by
  obtain ⟨r, strict, fields⟩ := (Decoded.accepted_andThen _ _).mp accepted
  simp only [Decoded.accepted_seq, Decoded.accepted_map] at fields
  obtain ⟨⟨_, numbers⟩, steps⟩ := fields
  refine ⟨(asStrictRecord_ok strict).1, ?_, Record.accepted_optionalItems strict (by decide) steps⟩
  intro w held
  cases w with
  | table entries =>
    exact NumberEntry.decode_accepted (Record.accepted_optionalTable strict (by decide) numbers held)
  | _ => rfl

namespace CataloguePart

/-- In a file that is accepted nothing is misspelt but steps. -/
theorem misspeltIn_of_accepted {document : Value}
    (accepted : (CatalogueFile.decode document).Accepted) {part : CataloguePart} (strict : part ≠ step) :
    part.misspeltIn document = false := by
  obtain ⟨root, signatures, rules⟩ := CatalogueFile.decode_accepted accepted
  have clauses : ∀ v ∈ clausesIn document, (ClauseEntry.decode v).Accepted := by
    intro v member
    obtain ⟨s, listed, inside⟩ := List.mem_flatMap.mp member
    exact (SignatureEntry.decode_accepted (signatures s listed)).2 v inside
  rw [misspeltIn, List.any_eq_false]
  intro v member
  rw [Bool.not_eq_true]
  cases part with
  | file =>
    rw [List.mem_singleton.mp member]
    exact root
  | signature => exact (SignatureEntry.decode_accepted (signatures v member)).1
  | clause => exact (ClauseEntry.decode_accepted (clauses v member)).1
  | numbers =>
    obtain ⟨c, listed, inside⟩ := List.mem_flatMap.mp member
    exact (ClauseEntry.decode_accepted (clauses c listed)).2.1 v inside
  | step => exact absurd rfl strict
  | rule => exact RuleEntry.decode_accepted (rules v member)

end CataloguePart

/-! ## Steps -/

namespace StepEntry

/-- Whether an entry of a step has a key that means something. -/
def isField (e : Value × Value) : Bool := (fieldName? e.1).any CataloguePart.step.names.contains

/-- Whether entries can be those of a step: all of them can be kept, and all keys can be names. -/
def isReadable (entries : List (Value × Value)) : Bool :=
  (entries.all fun (k, v) => k.isKeepable && v.isKeepable) &&
    entries.all fun e => (fieldName? e.1).isSome

/-- Entries with the names that their keys are. -/
def withNames (entries : List (Value × Value)) : List (String × Value) :=
  entries.map fun e => ((fieldName? e.1).getD "", e.2)

theorem mapM_fieldName? (entries : List (Value × Value)) :
    (entries.mapM fun (k, v) => (fieldName? k).map fun n => (n, v)) =
      if entries.all fun e => (fieldName? e.1).isSome then some (withNames entries) else none := by
  induction entries with
  | nil => rfl
  | cons e rest ih =>
    rw [List.mapM_cons, ih, List.all_cons]
    cases named : fieldName? e.1 with
    | none => simp [named]
    | some name =>
      cases rest.all fun e => (fieldName? e.1).isSome with
      | false => simp
      | true => simp [withNames, named]

theorem decode_table (entries : List (Value × Value)) :
    decode (.table entries) =
      if isReadable entries then decodeFields (.fields (withNames entries)) else wrongShape := by
  rw [decode, mapM_fieldName?, isReadable]
  cases entries.all fun (k, v) => k.isKeepable && v.isKeepable with
  | false => rfl
  | true => cases entries.all fun e => (fieldName? e.1).isSome <;> rfl

theorem decodeFields_filter (fields : List (String × Value)) :
    (decodeFields (.fields fields)).toOption =
      (decodeFields (.fields
        (fields.filter fun e => CataloguePart.step.names.contains e.1))).toOption := by
  refine toOption_asRecord_filter ?_ fields
  intro r r' same
  simp only [Decoded.toOption_seq, Decoded.toOption_map, Record.toOption_required,
    Record.toOption_withDefault, same]

/-- A step is read from those of its entries whose keys mean something. -/
theorem decode_filter (entries : List (Value × Value)) :
    (decode (.table entries)).toOption =
      if isReadable entries then (decode (.table (entries.filter isField))).toOption else none := by
  rw [decode_table]
  by_cases readable : isReadable entries
  · have stillReadable : isReadable (entries.filter isField) := by
      simp only [isReadable, Bool.and_eq_true, List.all_eq_true] at readable ⊢
      exact ⟨fun e member => readable.1 e (List.mem_filter.mp member).1,
        fun e member => readable.2 e (List.mem_filter.mp member).1⟩
    have fields : withNames (entries.filter isField) =
        (withNames entries).filter fun e => CataloguePart.step.names.contains e.1 := by
      rw [withNames, withNames, List.filter_map]
      refine congrArg _ (List.filter_congr ?_)
      intro e member
      obtain ⟨name, named⟩ := Option.isSome_iff_exists.mp
        (List.all_eq_true.mp (Bool.and_eq_true_iff.mp readable).2 e member)
      simp [isField, named]
    rw [if_pos readable, if_pos readable, decode_table, if_pos stillReadable, fields,
      decodeFields_filter]
  · rw [if_neg readable, if_neg readable]
    rfl

end StepEntry

/-! ## Files -/

/-- The document a text holds, unless it is empty. -/
def Document.Yaml.Text.document? : Yaml.Text → Option Value
  | .empty => none
  | .document v => some v

theorem Document.Yaml.Text.document?_eq_some_iff {text : Yaml.Text} {v : Value} :
    text.document? = some v ↔ text = .document v := by
  cases text with
  | empty => simp [document?]
  | document w => simp [document?]

namespace CatalogueFile

theorem parse_of_refused {source text : String} {document : Value}
    (read : Yaml.read? text = some (.document document)) (refused : ¬ (decode document).Accepted) :
    parse source text = .error (.notACatalogue source) := by
  have unread : ofText source text = .error (.notACatalogue source) := by
    cases decoded : decode document with
    | ok f => exact absurd ⟨f, decoded⟩ refused
    | refused e => simp only [ofText, read, decoded]
  rw [parse, unread]
  rfl

/-- How misspelt keys of a file are dealt with. -/
structure SpellingChecked (source text : String) : Prop where
  /-- No key may be misspelt in the file, a signature, a clause, a block of numbers or a rule. -/
  strict : ∀ document, Yaml.read? text = some (.document document) → ∀ part : CataloguePart,
    part ≠ .step → part.misspeltIn document → parse source text = .error (.notACatalogue source)
  /-- In a step, entries whose keys mean nothing are passed over once they can be read. -/
  lenient : ∀ entries, (StepEntry.decode (.table entries)).toOption =
    if StepEntry.isReadable entries
    then (StepEntry.decode (.table (entries.filter StepEntry.isField))).toOption else none

/-- Misspelt keys are refused everywhere but in steps. -/
theorem parse_spellingChecked (source text : String) : SpellingChecked source text := by
  refine ⟨?_, StepEntry.decode_filter⟩
  intro document read part strict misspelt
  refine parse_of_refused read ?_
  intro accepted
  rw [CataloguePart.misspeltIn_of_accepted accepted strict] at misspelt
  cases misspelt

/-- A file in which the operands of a step are called by a wrong name. -/
def strayOperand : String :=
  "version: 1\ncategory: c2\nsignatures:\n  - id: m\n    weight: 1\n    match:\n" ++
    "      - opcodes:\n          - mnemonic: sub\n            operand: rax\n"

/-- The file is accepted although a key of it is misspelt, and its step asks for the mnemonic alone. -/
theorem strayOperand_accepted : ∃ document, Yaml.read? strayOperand = some (.document document) ∧
    CataloguePart.step.misspeltIn document ∧ ∃ f, parse "sample.yaml" strayOperand = .ok f ∧
      (f.signatures.flatMap (·.clauses)).map (·.opcodes) = [some [.detailed "sub" none]] := by
  have misspelt : ((Yaml.read? strayOperand).bind (·.document?)).any
      CataloguePart.step.misspeltIn := by decide +kernel
  have steps : (parse "sample.yaml" strayOperand).toOption.map (fun f =>
      (f.signatures.flatMap (·.clauses)).map (·.opcodes)) = some [some [.detailed "sub" none]] := by
    decide +kernel
  obtain ⟨document, held, stray⟩ := (Option.any_eq_true _ _).mp misspelt
  obtain ⟨content, read, isDocument⟩ := Option.bind_eq_some_iff.mp held
  obtain ⟨f, accepted, asked⟩ := Option.map_eq_some_iff.mp steps
  rw [Yaml.Text.document?_eq_some_iff.mp isDocument] at read
  exact ⟨document, read, stray, f, toOption_eq_some_iff.mp accepted, asked⟩

end CatalogueFile

end TechniqueScan
