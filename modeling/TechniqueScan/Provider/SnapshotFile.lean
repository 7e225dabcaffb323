import TechniqueScan.Document.Json
import TechniqueScan.Document.Yaml.Node
import TechniqueScan.Path
import TechniqueScan.Provider.Error
import TechniqueScan.Snapshot
import TechniqueScan.Text.Utf8

/-!
Snapshots in files. The extension of a file says whether it is YAML; everything else is JSON.
-/

namespace TechniqueScan.Snapshot

open Document

/-- What a refusal says about the file. -/
def malformation : Refusal → Malformation
  | .shape => .notASnapshot
  | .number text fault => .number text fault

/-- Reads JSON. A fault in what could be read counts before the end of what could be read. -/
def ofJson (content : ByteArray) : Except Malformation Snapshot :=
  let (text, whole) := Text.decodeUtf8 content
  match Json.read text with
  | none => .error .notASnapshot
  | some reading =>
    match decode reading.value with
    | .refused f => .error (malformation f.cause)
    | .ok s => if reading.complete && whole then .ok s else .error .notASnapshot

/-- Reads YAML. An empty document says nothing, so everything is as it is by default. -/
def ofYaml (content : ByteArray) : Except Malformation Snapshot :=
  match (String.fromUTF8? content).bind Yaml.read? with
  | none => .error .notASnapshot
  | some .empty => .ok {}
  | some (.document v) =>
    match decode v with
    | .refused f => .error (malformation f.cause)
    | .ok s => .ok s

/-- Reads a file; each instruction has to be in a procedure. -/
def ofFile (path : String) (content : ByteArray) : Except FactError Snapshot :=
  match if Path.isYaml path then ofYaml content else ofJson content with
  | .error what => .error (.malformed path what)
  | .ok s =>
    match s.strayInstruction? with
    | some c => .error (.malformed path (.strayInstruction c.instruction.mnemonic c.address))
    | none => .ok s

/-- The facts of a file. A snapshot that names no binary is named after its file. -/
def factsOfFile (path : String) (content : ByteArray) : Except FactError FactModel := do
  let s ← ofFile path content
  let s := if Text.isBlankText s.binary then { s with binary := (Path.fileStem? path).getD "snapshot" } else s
  .ok s.model

end TechniqueScan.Snapshot
