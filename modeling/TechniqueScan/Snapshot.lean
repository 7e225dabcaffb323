import TechniqueScan.Fact.Codec
import TechniqueScan.NumberText

/-!
Snapshots: lists of symbols, strings, constants, instructions and references that a disassembler
exported, from which a fact model is built.
-/

namespace TechniqueScan

open Document

/-- The parts of a snapshot as they stand in its document. -/
structure Snapshot.Symbol where
  name : String
  kind : SymbolKind
  procedure : Option String
  address : UInt64
  context : CallContext

structure Snapshot.Literal where
  value : String
  procedure : Option String
  address : UInt64

structure Snapshot.Constant where
  value : UInt64
  operandIndex : Option Nat
  procedure : Option String
  address : UInt64

structure Snapshot.Code where
  procedure : String
  address : UInt64
  instruction : Instruction

structure Snapshot.Link where
  procedure : Option String
  address : UInt64
  reference : Reference
  context : CallContext

/-- A snapshot of what is known about a binary. -/
structure Snapshot where
  binary : String := ""
  symbols : List Snapshot.Symbol := []
  strings : List Snapshot.Literal := []
  constants : List Snapshot.Constant := []
  instructions : List Snapshot.Code := []
  references : List Snapshot.Link := []

namespace Snapshot

/-! ## Facts -/

/-- The place an optional procedure and an address name. -/
def place (procedure : Option String) (address : UInt64) : Location :=
  ⟨Scope.ofText? procedure, address⟩

def Symbol.fact (s : Symbol) : Fact :=
  ⟨place s.procedure s.address, .symbol s.name s.kind, s.context.nonempty?⟩

def Literal.fact (s : Literal) : Fact := ⟨place s.procedure s.address, .string s.value, none⟩

def Constant.fact (c : Constant) : Fact :=
  ⟨place c.procedure c.address, .number c.value c.operandIndex, none⟩

/-- An instruction belongs to its procedure whatever that is called. -/
def Code.fact (c : Code) : Fact :=
  ⟨⟨.procedure c.procedure, c.address⟩, .instruction c.instruction, none⟩

def Link.fact (l : Link) : Fact :=
  ⟨place l.procedure l.address, .reference l.reference, l.context.nonempty?⟩

/-- All facts of a snapshot. -/
def facts (s : Snapshot) : List Fact :=
  s.symbols.map Symbol.fact ++ s.strings.map Literal.fact ++ s.constants.map Constant.fact
    ++ s.instructions.map Code.fact ++ s.references.map Link.fact

def model (s : Snapshot) : FactModel := .ofFacts s.binary s.facts

/-- The first instruction that is in no procedure; windows of instructions need one. -/
def strayInstruction? (s : Snapshot) : Option Code :=
  s.instructions.find? fun c => Text.isBlankText c.procedure

/-! ## Reading -/

/-- A record with a call context spread among its fields; such a record is always a table. -/
def asContextRecord (names : List String) (v : Value) : Decoded Record :=
  (v.asRecord names).andThen fun r =>
    if r.positional then wrongShape
    else
      match r.others.find? fun (_, _, v) => !v.isKeepable with
      | some (i, _, _) => .refused ⟨[i], .shape⟩
      | none => .ok r

/-- A call context read from the entries that a record does not know, after all others. -/
def contextOf (r : Record) : Decoded CallContext :=
  let entries := r.others.map fun (_, k, v) => (k, v)
  let typed (v : Value) : Value := match v.resolved? with
    | some s => .scalar s
    | none => v
  match CallContext.decode (.table (entries.map fun (k, v) => (k, typed v))) with
  | .ok c => .ok c
  | .refused _ => .refused ⟨[r.size], .shape⟩

def Symbol.decode (v : Value) : Decoded Symbol :=
  (asContextRecord ["name", "kind", "procedure", "address"] v).andThen fun r =>
    Symbol.mk <$> r.required "name" Value.asText
      <*> r.withDefault "kind" .imported SymbolKind.decode
      <*> r.optional "procedure" Value.asText
      <*> r.withDefault "address" 0 NumberText.decode
      <*> contextOf r

def Literal.decode (v : Value) : Decoded Literal :=
  (v.asRecord ["value", "procedure", "address"]).andThen fun r =>
    Literal.mk <$> r.required "value" Value.asText
      <*> r.optional "procedure" Value.asText
      <*> r.withDefault "address" 0 NumberText.decode

def Constant.decode (v : Value) : Decoded Constant :=
  (v.asRecord ["value", "operand_index", "procedure", "address"]).andThen fun r =>
    Constant.mk <$> r.required "value" NumberText.decode
      <*> r.optional "operand_index" (Value.asNatural 256)
      <*> r.optional "procedure" Value.asText
      <*> r.withDefault "address" 0 NumberText.decode

def Code.decode (v : Value) : Decoded Code :=
  (v.asRecord ["procedure", "address", "mnemonic", "operands"]).andThen fun r =>
    (fun p a m o => ⟨p, a, ⟨m, o⟩⟩) <$> r.required "procedure" Value.asText
      <*> r.required "address" NumberText.decode
      <*> r.required "mnemonic" Value.asText
      <*> r.withDefault "operands" "" Value.asText

def Link.decode (v : Value) : Decoded Link :=
  (asContextRecord ["procedure", "address", "target", "target_name", "kind"] v).andThen fun r =>
    (fun p a t n k c => ⟨p, a, ⟨t, n, k⟩, c⟩) <$> r.optional "procedure" Value.asText
      <*> r.withDefault "address" 0 NumberText.decode
      <*> r.withDefault "target" 0 NumberText.decode
      <*> r.optional "target_name" Value.asText
      <*> r.withDefault "kind" .call ReferenceKind.decode
      <*> contextOf r

/-- Reads a snapshot; every part may be missing. -/
def decode (v : Value) : Decoded Snapshot :=
  (v.asRecord ["binary", "symbols", "strings", "constants", "instructions", "xrefs"]).andThen fun r =>
    Snapshot.mk <$> r.withDefault "binary" "" Value.asText
      <*> r.withDefault "symbols" [] (Value.asList Symbol.decode)
      <*> r.withDefault "strings" [] (Value.asList Literal.decode)
      <*> r.withDefault "constants" [] (Value.asList Constant.decode)
      <*> r.withDefault "instructions" [] (Value.asList Code.decode)
      <*> r.withDefault "xrefs" [] (Value.asList Link.decode)

/-! ## Writing -/

def procedureEntry (p : Option String) : String × Value := ("procedure", .orNull (p.map .text))

def Symbol.encode (s : Symbol) : Value :=
  .fields ([("name", .text s.name), ("kind", s.kind.encode), procedureEntry s.procedure,
    ("address", wordValue s.address)] ++ s.context.encodeFields)

def Literal.encode (s : Literal) : Value :=
  .fields [("value", .text s.value), procedureEntry s.procedure, ("address", wordValue s.address)]

def Constant.encode (c : Constant) : Value :=
  .fields [("value", wordValue c.value), ("operand_index", .orNull (c.operandIndex.map .natural)),
    procedureEntry c.procedure, ("address", wordValue c.address)]

def Code.encode (c : Code) : Value :=
  .fields [("procedure", .text c.procedure), ("address", wordValue c.address),
    ("mnemonic", .text c.instruction.mnemonic), ("operands", .text c.instruction.operands)]

def Link.encode (l : Link) : Value :=
  .fields ([procedureEntry l.procedure, ("address", wordValue l.address),
    ("target", wordValue l.reference.target),
    ("target_name", .orNull (l.reference.targetName.map .text)),
    ("kind", l.reference.kind.encode)] ++ l.context.encodeFields)

def encode (s : Snapshot) : Value :=
  .fields [("binary", .text s.binary),
    ("symbols", .items (s.symbols.map Symbol.encode)),
    ("strings", .items (s.strings.map Literal.encode)),
    ("constants", .items (s.constants.map Constant.encode)),
    ("instructions", .items (s.instructions.map Code.encode)),
    ("xrefs", .items (s.references.map Link.encode))]

end Snapshot

end TechniqueScan
