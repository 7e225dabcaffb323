import TechniqueScan.Catalogue.Signature
import TechniqueScan.Document.Decode

/-!
Catalogue files as they are written, before anything in them has been checked. No field may be
misspelt; only a step of a window tolerates fields it does not know.
-/

namespace TechniqueScan

open Document

/-- Numbers as a catalogue lists them. -/
structure NumberEntry where
  values : List UInt64
  min : Option UInt64
  max : Option UInt64
  deriving DecidableEq, Repr

/-- A step of a window: a mnemonic alone, or with operands. -/
inductive StepEntry where
  | mnemonic (m : String)
  | detailed (m : String) (operands : Option String)
  deriving DecidableEq, Repr

/-- A clause of a signature; one of its kinds should be set. -/
structure ClauseEntry where
  symbols : Option (List String) := none
  strings : Option (List String) := none
  regex : Option String := none
  target : Option RegexTarget := none
  numbers : Option NumberEntry := none
  opcodes : Option (List StepEntry) := none
  deriving DecidableEq, Repr

structure SignatureEntry (α : Type) where
  id : String
  description : String
  weight : α
  clauses : List ClauseEntry
  deriving DecidableEq, Repr

structure RuleEntry (α : Type) where
  id : String
  description : String
  signatures : List String
  boost : α
  deriving DecidableEq, Repr

/-- A catalogue file: what it declares for one category. -/
structure CatalogueFile (α : Type) where
  version : Nat
  category : String
  signatures : List (SignatureEntry α)
  rules : List (RuleEntry α)
  deriving DecidableEq, Repr

/-! ## Reading -/

namespace StepEntry

/-- The field that a key of a step names, by text or by position; none if it can be no key. -/
def fieldName? (key : Value) : Option String :=
  match key.resolved? with
  | some (.text s) => some s
  | some (.integer 0) => some "mnemonic"
  | some (.integer 1) => some "operands"
  | some (.integer i) => if 0 ≤ i then some "" else none
  | _ => none

/-- A text that is nothing else, as it is required inside a step. -/
def strictText (v : Value) : Decoded String :=
  match v.resolved? with
  | some (.text s) => .ok s
  | _ => wrongShape

/-- A step with its fields named. -/
def decodeFields (v : Value) : Decoded StepEntry :=
  (v.asRecord ["mnemonic", "operands"]).andThen fun r =>
    detailed <$> r.required "mnemonic" strictText
      <*> r.withDefault "operands" none fun v =>
        match v.resolved? with
        | some .null => .ok none
        | _ => some <$> strictText v

def decode : Value → Decoded StepEntry
  | .table entries =>
    if entries.all fun (k, v) => k.isKeepable && v.isKeepable then
      match entries.mapM fun (k, v) => (fieldName? k).map fun n => (n, v) with
      | some named => decodeFields (.fields named)
      | none => wrongShape
    else wrongShape
  | v => mnemonic <$> strictText v

end StepEntry

def RegexTarget.decode (v : Value) : Decoded RegexTarget := v.asName RegexTarget.ofName?

/-- A word of 64 bits. -/
def decodeCatalogueWord (v : Value) : Decoded UInt64 := UInt64.ofNat <$> v.asWord

def NumberEntry.decode (v : Value) : Decoded NumberEntry :=
  (v.asStrictRecord ["values", "min", "max"]).andThen fun r =>
    NumberEntry.mk <$> r.withDefault "values" [] (Value.asList decodeCatalogueWord)
      <*> r.optional "min" decodeCatalogueWord
      <*> r.optional "max" decodeCatalogueWord

def ClauseEntry.decode (v : Value) : Decoded ClauseEntry :=
  (v.asStrictRecord ["symbols", "strings", "regex", "on", "numbers", "opcodes"]).andThen fun r =>
    ClauseEntry.mk <$> r.optional "symbols" (Value.asList Value.asText)
      <*> r.optional "strings" (Value.asList Value.asText)
      <*> r.optional "regex" Value.asText
      <*> r.optional "on" RegexTarget.decode
      <*> r.optional "numbers" NumberEntry.decode
      <*> r.optional "opcodes" (Value.asList StepEntry.decode)

def SignatureEntry.decode (v : Value) : Decoded (SignatureEntry Float) :=
  (v.asStrictRecord ["id", "description", "weight", "match"]).andThen fun r =>
    SignatureEntry.mk <$> r.required "id" Value.asText
      <*> r.withDefault "description" "" Value.asText
      <*> r.required "weight" Value.asReal
      <*> r.withDefault "match" [] (Value.asList ClauseEntry.decode)

def RuleEntry.decode (v : Value) : Decoded (RuleEntry Float) :=
  (v.asStrictRecord ["id", "description", "signatures", "boost"]).andThen fun r =>
    RuleEntry.mk <$> r.required "id" Value.asText
      <*> r.withDefault "description" "" Value.asText
      <*> r.required "signatures" (Value.asList Value.asText)
      <*> r.withDefault "boost" 0.0 Value.asReal

def CatalogueFile.decode (v : Value) : Decoded (CatalogueFile Float) :=
  (v.asStrictRecord ["version", "category", "signatures", "rules"]).andThen fun r =>
    CatalogueFile.mk <$> r.required "version" (Value.asNatural (1 <<< 32))
      <*> r.required "category" Value.asText
      <*> r.withDefault "signatures" [] (Value.asList SignatureEntry.decode)
      <*> r.withDefault "rules" [] (Value.asList RuleEntry.decode)

/-! ## Writing -/

def textItems (ts : List String) : Value := .items (ts.map .text)

def StepEntry.encode : StepEntry → Value
  | mnemonic m => .text m
  | detailed m operands =>
    .fields [("mnemonic", .text m), ("operands", .orNull (operands.map .text))]

def NumberEntry.encode (n : NumberEntry) : Value :=
  let word (w : UInt64) : Value := .natural w.toNat
  .fields [("values", .items (n.values.map word)), ("min", .orNull (n.min.map word)),
    ("max", .orNull (n.max.map word))]

def ClauseEntry.encode (c : ClauseEntry) : Value :=
  .fields (Value.whenSome "symbols" (c.symbols.map textItems)
    ++ Value.whenSome "strings" (c.strings.map textItems)
    ++ Value.whenSome "regex" (c.regex.map .text)
    ++ Value.whenSome "on" (c.target.map fun t => .text t.name)
    ++ Value.whenSome "numbers" (c.numbers.map NumberEntry.encode)
    ++ Value.whenSome "opcodes" (c.opcodes.map fun steps => .items (steps.map StepEntry.encode)))

def SignatureEntry.encode (s : SignatureEntry Float) : Value :=
  .fields [("id", .text s.id), ("description", .text s.description), ("weight", .real s.weight),
    ("match", .items (s.clauses.map ClauseEntry.encode))]

def RuleEntry.encode (r : RuleEntry Float) : Value :=
  .fields [("id", .text r.id), ("description", .text r.description),
    ("signatures", textItems r.signatures), ("boost", .real r.boost)]

def CatalogueFile.encode (f : CatalogueFile Float) : Value :=
  .fields [("version", .natural f.version), ("category", .text f.category),
    ("signatures", .items (f.signatures.map SignatureEntry.encode)),
    ("rules", .items (f.rules.map RuleEntry.encode))]

end TechniqueScan
