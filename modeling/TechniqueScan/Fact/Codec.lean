import TechniqueScan.Document.Decode
import TechniqueScan.FactModel

/-!
Facts as documents, and back. What is written is read as the same fact, provided no procedure has
the name that stands for the whole binary.
-/

namespace TechniqueScan

open Document

/-- A word of 64 bits as a document. -/
def wordValue (w : UInt64) : Value := .natural w.toNat

/-- Reads a word of 64 bits. -/
def decodeWord (v : Value) : Decoded UInt64 := UInt64.ofNat <$> v.asWord

def Scope.encode (s : Scope) : Value := .text s.toText

def Scope.decode (v : Value) : Decoded Scope := Scope.ofText <$> v.asText

def Location.encode (l : Location) : Value :=
  .fields [("scope", l.scope.encode), ("address", wordValue l.address)]

def Location.decode (v : Value) : Decoded Location :=
  (v.asRecord ["scope", "address"]).andThen fun r =>
    Location.mk <$> r.required "scope" Scope.decode <*> r.required "address" decodeWord

def SymbolKind.encode (k : SymbolKind) : Value := .text k.name

def SymbolKind.decode (v : Value) : Decoded SymbolKind := v.asName SymbolKind.ofName?

def ReferenceKind.encode (k : ReferenceKind) : Value := .text k.name

def ReferenceKind.decode (v : Value) : Decoded ReferenceKind := v.asName ReferenceKind.ofName?

namespace Observation

/-- The name of the kind and the fields of what was seen. -/
def encodeParts : Observation → String × List (String × Value)
  | symbol name kind => ("symbol", [("name", .text name), ("kind", kind.encode)])
  | string value => ("string", [("value", .text value)])
  | number value index =>
    ("number", [("value", wordValue value), ("operand_index", .orNull (index.map .natural))])
  | instruction i =>
    ("instruction", [("mnemonic", .text i.mnemonic), ("operands", .text i.operands)])
  | reference r =>
    ("xref", [("target", wordValue r.target), ("target_name", .orNull (r.targetName.map .text)),
      ("kind", r.kind.encode)])

def encode (o : Observation) : Value :=
  .fields [((encodeParts o).1, .fields (encodeParts o).2)]

/-- Reads what was seen, given the name of its kind. -/
def decodeAs (kind : String) (v : Value) : Decoded Observation :=
  match kind with
  | "symbol" => (v.asRecord ["name", "kind"]).andThen fun r =>
      symbol <$> r.required "name" Value.asText <*> r.required "kind" SymbolKind.decode
  | "string" => (v.asRecord ["value"]).andThen fun r => string <$> r.required "value" Value.asText
  | "number" => (v.asRecord ["value", "operand_index"]).andThen fun r =>
      number <$> r.required "value" decodeWord
        <*> r.nullable "operand_index" (Value.asNatural 256)
  | "instruction" => (v.asRecord ["mnemonic", "operands"]).andThen fun r =>
      (fun m o => instruction ⟨m, o⟩) <$> r.required "mnemonic" Value.asText
        <*> r.required "operands" Value.asText
  | "xref" => (v.asRecord ["target", "target_name", "kind"]).andThen fun r =>
      (fun t n k => reference ⟨t, n, k⟩) <$> r.required "target" decodeWord
        <*> r.nullable "target_name" Value.asText <*> r.required "kind" ReferenceKind.decode
  | _ => wrongShape

def decode : Value → Decoded Observation
  | .table [(.scalar (.text kind), v)] => decodeAs kind v
  | _ => wrongShape

end Observation

/-- The fields of a context. -/
def CallContext.encodeFields (c : CallContext) : List (String × Value) :=
  [("calling_convention", .orNull (c.convention.map .text)),
   ("argument_count", .orNull (c.argumentCount.map .natural))]

def CallContext.encode (c : CallContext) : Value := .fields c.encodeFields

def CallContext.fieldNames : List String := ["calling_convention", "argument_count"]

def CallContext.decode (v : Value) : Decoded CallContext :=
  (v.asRecord fieldNames).andThen fun r =>
    CallContext.mk <$> r.nullable "calling_convention" Value.asText
      <*> r.nullable "argument_count" (Value.asNatural (1 <<< 32))

def Fact.encodeFields (f : Fact) : List (String × Value) :=
  [("location", f.location.encode), ("kind", f.seen.encode)]
    ++ Value.whenSome "context" (f.context.map CallContext.encode)

def Fact.encode (f : Fact) : Value := .fields f.encodeFields

def Fact.decode (v : Value) : Decoded Fact :=
  (v.asRecord ["location", "kind", "context"]).andThen fun r =>
    Fact.mk <$> r.required "location" Location.decode <*> r.required "kind" Observation.decode
      <*> r.optional "context" CallContext.decode

def FactCounts.encode (c : FactCounts) : Value :=
  .fields [("symbols", .natural c.symbols), ("strings", .natural c.strings),
    ("constants", .natural c.constants), ("instructions", .natural c.instructions),
    ("xrefs", .natural c.references)]

/-- Reads counts; a count is a word of 64 bits. -/
def FactCounts.decode (v : Value) : Decoded FactCounts :=
  (v.asRecord ["symbols", "strings", "constants", "instructions", "xrefs"]).andThen fun r =>
    FactCounts.mk <$> r.required "symbols" Value.asWord <*> r.required "strings" Value.asWord
      <*> r.required "constants" Value.asWord <*> r.required "instructions" Value.asWord
      <*> r.required "xrefs" Value.asWord

end TechniqueScan
