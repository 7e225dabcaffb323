import TechniqueScan.Text.Utf8

/-!
What a binary consists of, whatever its container: sections, procedures, imported and exported
names. Procedures are settled before they are looked at: those at one address count once, and each
reaches as far as the next one or as its section.
-/

namespace TechniqueScan.Binary

/-- The instruction sets that are known. -/
inductive Architecture where
  | x86_64 | x86 | arm | arm64
  deriving DecidableEq, Repr

namespace Architecture

def all : List Architecture := [x86_64, x86, arm, arm64]

/-- The names of an architecture. -/
def names : Architecture → List String
  | x86_64 => ["x86_64", "amd64"]
  | x86 => ["x86", "i386"]
  | arm => ["arm", "armv7"]
  | arm64 => ["arm64", "aarch64"]

def ofName? (s : String) : Option Architecture := all.find? fun a => a.names.contains s

end Architecture

/-- A stretch of addresses and where its bytes are in the file. -/
structure Section where
  name : String
  start : UInt64
  /-- The address behind the last one. -/
  stop : UInt64
  fileOffset : Nat
  /-- Whether the container says that procedures can be here. -/
  holdsCode : Bool := false
  deriving DecidableEq, Repr

namespace Section

def contains (s : Section) (address : UInt64) : Bool := s.start ≤ address && address < s.stop

/-- The part of a file with some number of bytes from an address on, cut at the section's end. -/
def fileRange? (s : Section) (address : UInt64) (length : Option UInt64) (fileSize : Nat) :
    Option (Nat × Nat) :=
  if s.contains address then
    let available := (s.stop - address).toNat
    let wanted := Nat.min ((length.map (·.toNat)).getD available) available
    let start := s.fileOffset + (address - s.start).toNat
    let stop := Nat.min (start + wanted) fileSize
    if start < stop then some (start, stop) else none
  else none

end Section

/-- A procedure. -/
structure Procedure where
  name : String
  address : UInt64
  /-- How many bytes it has, if that is known. -/
  size : Option UInt64
  /-- The section it lies in, if its address alone does not say so. -/
  sectionIndex : Option Nat
  deriving DecidableEq, Repr

/-- A name and its address. -/
structure NamedAddress where
  name : String
  address : UInt64
  deriving DecidableEq, Repr

/-- A name that stands at an offset of a section. -/
structure Relocation where
  sectionIndex : Nat
  offset : UInt64
  name : String
  deriving DecidableEq, Repr

/-- What a binary consists of. -/
structure Image where
  architecture : Option Architecture := none
  sections : List Section := []
  procedures : List Procedure := []
  imports : List NamedAddress := []
  exports : List NamedAddress := []
  /-- The names of addresses that are called; of several for one address the first one holds. -/
  names : List NamedAddress := []
  /-- The names that calls are bound to later; of several at one place the last one holds. -/
  relocations : List Relocation := []
  entry : Option UInt64 := none
  deriving DecidableEq, Repr

namespace Image

/-- The name of an address. -/
def nameOf? (i : Image) (address : UInt64) : Option String :=
  (i.names.find? fun n => n.address = address).map (·.name)

/-- The name that is bound at an offset of a section. -/
def boundName? (i : Image) (sectionIndex : Nat) (offset : UInt64) : Option String :=
  (i.relocations.reverse.find? fun r => r.sectionIndex = sectionIndex && r.offset = offset).map
    (·.name)

/-! ## Settling -/

/-- By address, then by name. -/
def procedureOrder (a b : Procedure) : Bool :=
  a.address < b.address || (a.address = b.address && (compare a.name b.name).isLE)

/-- The procedures without those at the address of the one before them. -/
def dropAliases : List Procedure → List Procedure
  | [] => []
  | p :: rest =>
    p :: go p.address rest
where
  go (address : UInt64) : List Procedure → List Procedure
    | [] => []
    | p :: rest => if p.address = address then go address rest else p :: go p.address rest

/-- The number of bytes up to the next procedure or the end of the section. -/
def reach? (i : Image) (address : UInt64) (next : Option UInt64) : Option UInt64 :=
  match next, (i.sections.find? fun s => s.contains address).map (·.stop) with
  | some n, some stop => some ((if n < stop then n else stop) - address)
  | some n, none => some (n - address)
  | none, some stop => some (stop - address)
  | none, none => none

/-- Procedures in order, each with its size as far as that can be told. -/
def sized (i : Image) : List Procedure → List Procedure
  | [] => []
  | p :: rest =>
    (if p.size.isSome then p
      else { p with size := i.reach? p.address (rest.head?.map (·.address)) }) :: sized i rest

/-- The image with its procedures in order, each address once, and with sizes. -/
def settle (i : Image) : Image :=
  { i with procedures := i.sized (dropAliases (i.procedures.mergeSort procedureOrder)) }

/-! ## Texts -/

/-- The names that sections with texts begin with. -/
def textSections : List String :=
  [".rodata", ".rdata", "__cstring", "__const", "__objc_methname", "__objc_classname",
    "__oslogstring"]

/-- The fewest characters that make a text. -/
def shortestText : Nat := 4

def isTextByte (b : UInt8) : Bool := (0x20 ≤ b && b < 0x7f) || b == 9

/-- The runs of printable bytes that are long enough, each with its address. -/
def runs (address : UInt64) (bytes : List UInt8) : List (UInt64 × String) :=
  go address [] address bytes
where
  /-- `start` and `run` are the run so far, its last byte first; `here` is the next address. -/
  go (start : UInt64) (run : List UInt8) (here : UInt64) : List UInt8 → List (UInt64 × String)
    | [] => ended start run
    | b :: bs =>
      if isTextByte b then go (if run.isEmpty then here else start) (b :: run) (here + 1) bs
      else ended start run ++ go start [] (here + 1) bs
  ended (start : UInt64) (run : List UInt8) : List (UInt64 × String) :=
    if run.length < shortestText then []
    else [(start, String.ofList (run.reverse.map fun b => Char.ofNat b.toNat))]

/-- The texts of the sections with texts; of several at one address the last one holds. -/
def strings (i : Image) (bytes : ByteArray) : List (UInt64 × String) :=
  let found := i.sections.flatMap fun s =>
    if textSections.any fun t => t.isPrefixOf s.name then
      match s.fileRange? s.start none bytes.size with
      | some (start, stop) => runs s.start (bytes.extract start stop).data.toList
      | none => []
    else []
  found.foldl (fun kept (address, text) =>
    kept.filter (fun (a, _) => a ≠ address) ++ [(address, text)]) []

end Image

end TechniqueScan.Binary
