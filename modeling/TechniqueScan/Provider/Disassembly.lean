import TechniqueScan.Binary.Container
import TechniqueScan.Digest.Sha256
import TechniqueScan.FactModel
import TechniqueScan.Machine
import TechniqueScan.Path
import TechniqueScan.Provider.Error
import TechniqueScan.Provider.Request

/-!
Facts straight from a binary. Imports and exports are symbols of the whole binary; procedures are
disassembled into instructions, numbers and calls; texts belong to the procedures that refer to
them, or to the whole binary if none does.
-/

namespace TechniqueScan.Disassembly

open Binary Machine

/-- How many instructions of a procedure are looked at unless a request says otherwise. -/
def defaultBudget : Nat := 4096

/-- The name of a binary by which its reports are told apart: its file name and its digest. -/
def identifier (path : String) (content : ByteArray) : String :=
  Path.outputName path ++ "@sha256:" ++ Digest.sha256 content

/-- What procedures are read with. -/
structure Context where
  image : Image
  strings : List (UInt64 × String)
  decode : Decoder
  budget : Nat

namespace Context

/-- The name of what a call calls: the one bound inside the instruction, or that of its target. -/
def calledName? (x : Context) (p : Procedure) (address : UInt64) (length : Nat)
    (target : Option UInt64) : Option String :=
  let bound? := p.sectionIndex.bind fun s =>
    (List.range length).findSome? fun i => x.image.boundName? s (address + UInt64.ofNat i)
  bound? <|> target.bind x.image.nameOf?

/-- The text at an address. -/
def string? (x : Context) (address : UInt64) : Option String := x.strings.lookup address

/-- The addresses with texts that an instruction refers to. -/
def referredStrings (x : Context) (d : Decoded) : List UInt64 :=
  (d.immediates.map (·.2) ++ d.memoryTarget.toList).filter fun a => (x.string? a).isSome

/-- What an instruction of a procedure says. -/
def instructionFacts (x : Context) (p : Procedure) (address : UInt64) (d : Decoded) : List Fact :=
  let here : Location := ⟨.procedure p.name, address⟩
  let target := (d.immediates.head?.map (·.2)) <|> d.memoryTarget
  let values : List Fact :=
    if d.isCall then
      [⟨here, .reference ⟨target.getD 0, x.calledName? p address d.length target, .call⟩, none⟩]
    else d.immediates.map fun (i, v) => ⟨here, .number v (some i), none⟩
  ⟨here, .instruction ⟨d.mnemonic, d.operands⟩, none⟩ :: values
    ++ (x.referredStrings d).filterMap fun a => (x.string? a).map fun s => ⟨here, .string s, none⟩

/-- The code of a procedure: in its own section, or in the first one that its address lies in. -/
def codeRange? (x : Context) (p : Procedure) (fileSize : Nat) : Option (Nat × Nat) :=
  (x.image.sections.zipIdx.filter fun (_, i) => p.sectionIndex.all (· = i)).findSome?
    fun (s, _) => s.fileRange? p.address p.size fileSize

/-- The instructions of a procedure with their addresses. -/
def instructions (x : Context) (p : Procedure) (content : ByteArray) : List (UInt64 × Decoded) :=
  match x.codeRange? p content.size with
  | none => []
  | some (start, stop) => listing x.decode (content.extract start stop) x.budget 0 p.address

/-- What the code of a procedure says. -/
def procedureFacts (x : Context) (p : Procedure) (content : ByteArray) : List Fact :=
  (x.instructions p content).flatMap fun (address, d) => x.instructionFacts p address d

/-- The addresses of the texts that some procedure refers to. -/
def referred (x : Context) (content : ByteArray) : List UInt64 :=
  x.image.procedures.flatMap fun p =>
    (x.instructions p content).flatMap fun (_, d) => x.referredStrings d

/-- A symbol of the whole binary. -/
def symbolFact (kind : SymbolKind) (n : NamedAddress) : Fact :=
  ⟨⟨.whole, n.address⟩, .symbol n.name kind, none⟩

/-- All facts of a binary. -/
def facts (x : Context) (content : ByteArray) : List Fact :=
  let referred := x.referred content
  x.image.imports.map (symbolFact .imported) ++ x.image.exports.map (symbolFact .exported)
    ++ x.image.procedures.flatMap (fun p => x.procedureFacts p content)
    ++ (x.strings.filter fun (a, _) => !referred.contains a).map fun (a, s) =>
      ⟨⟨.whole, a⟩, .string s, none⟩

end Context

/-- An image with at least one procedure: all of it is code, or it begins at its entry. -/
def withProcedures (i : Image) (content : ByteArray) : Image :=
  let size := UInt64.ofNat content.size
  if i.sections.isEmpty then
    { i with
      sections := [{ name := "blob", start := 0, stop := size, fileOffset := 0, holdsCode := true }]
      procedures := i.procedures ++
        [{ name := "sub_0", address := 0, size := some size, sectionIndex := none }] }
  else if i.procedures.isEmpty then
    match i.entry with
    | some address =>
      { i with procedures := [{ name := "entry", address, size := none, sectionIndex := none }] }
    | none => i
  else i

/-- The image of a file. -/
def imageOf (path : String) (content : ByteArray) : Except FactError Image :=
  match Container.read content with
  | .image i => .ok i
  | .raw => .ok {}
  | .universal =>
    .error (.unsupportedFormat "universal (fat) Mach-O; extract a single architecture first")
  | .malformed => .error (.malformed path .notAContainer)

/-- The architecture that is asked for, or that of the image, or the usual one. -/
def architectureOf (asked : Option String) (i : Image) : Except FactError Architecture :=
  match asked with
  | none => .ok (i.architecture.getD .x86_64)
  | some name =>
    let name := Text.toLower name
    match Architecture.ofName? name with
    | some a => .ok a
    | none => .error (.unsupportedFormat ("architecture '" ++ name ++ "'"))

/-- The facts of a file. -/
def factsOfFile (q : FactRequest) (content : ByteArray) : Except FactError FactModel := do
  if content.isEmpty then .error (.malformed q.path .emptyFile)
  let budget := q.maxInstructions.getD defaultBudget
  if budget = 0 then .error (.backend "instruction budget must be at least 1")
  let image := (withProcedures (← imageOf q.path content) content).settle
  let architecture ← architectureOf q.architecture image
  let x : Context := ⟨image, image.strings content, decoderOf architecture, budget⟩
  .ok (.ofFacts (identifier q.path content) (x.facts content))

end TechniqueScan.Disassembly
