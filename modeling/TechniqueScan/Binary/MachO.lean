import TechniqueScan.Binary.Bytes
import TechniqueScan.Binary.Image

/-!
Mach-O files of one architecture. A file is refused as a whole if a load command, a segment or the
table of symbols cannot be read; imports and exports that cannot be read are left out.
-/

namespace TechniqueScan.Binary.MachO

/-- How numbers are laid out: their order of bytes, and whether addresses have 64 bits. -/
structure Format where
  order : ByteOrder
  wide : Bool

def Format.word (f : Format) : Nat := if f.wide then 8 else 4

/-- The format that the first bytes announce. -/
def format? (bytes : ByteArray) : Option Format :=
  match number? .big bytes 0 4 with
  | some 0xfeedface => some ⟨.big, false⟩
  | some 0xfeedfacf => some ⟨.big, true⟩
  | some 0xcefaedfe => some ⟨.little, false⟩
  | some 0xcffaedfe => some ⟨.little, true⟩
  | _ => none

structure Segment where
  name : String
  address : Nat
  fileOffset : Nat
  sections : List Section

structure Symbol where
  name : String
  kind : Nat
  sectionIndex : Nat
  value : Nat

/-- Where a table stands in the file. -/
structure Extent where
  start : Nat
  size : Nat

/-- What the load commands say. -/
structure Commands where
  segments : List Segment := []
  symbols : List Symbol := []
  /-- The tables of imports that are bound when the file is loaded, and later. -/
  bindings : Option (Extent × Extent) := none
  exportTrie : Option Extent := none
  /-- Where the program begins, as an offset in the file. -/
  mainOffset : Option Nat := none
  /-- Where the first thread begins. -/
  threadStart : Option Nat := none

/-! ## Segments and symbols -/

/-- The sections of a segment that can be read, their headers beginning at an offset. -/
def sections (f : Format) (bytes : ByteArray) : (count : Nat) → (offset : Nat) → List Section
  | 0, _ => []
  | count + 1, offset =>
    let w := f.word
    let size := if f.wide then 80 else 68
    match slice? bytes offset size, fields? f.order bytes (offset + 32) [w, w, 4] with
    | some _, some [address, length, fileOffset] =>
      let name := (fixedText? bytes offset 16).getD ""
      let segment := (fixedText? bytes (offset + 16) 16).getD ""
      { name
        start := UInt64.ofNat address
        stop := UInt64.ofNat (Nat.min (address + length) (1 <<< 64 - 1))
        fileOffset
        holdsCode := segment = "__TEXT" && name = "__text" }
        :: sections f bytes count (offset + size)
    | _, _ => []

/-- A segment command with addresses of some width, and the sections behind it. -/
def segment? (f : Format) (w : Nat) (bytes : ByteArray) (offset : Nat) : Option Segment := do
  match ← fields? f.order bytes (offset + 24) [w, w, w, w, 4, 4, 4, 4] with
  | [address, _, fileOffset, fileSize, _, _, sectionCount, _] =>
    if fileSize ≠ 0 ∧ (slice? bytes fileOffset fileSize).isNone then none
    else
      some
        { name := (fixedText? bytes (offset + 8) 16).getD ""
          address, fileOffset
          sections := sections f bytes (Nat.min sectionCount bytes.size)
            (offset + 40 + 4 * f.word) }
  | _ => none

/-- The symbols that can be read, the first of them at an offset. -/
def symbols (f : Format) (bytes : ByteArray) (names : Nat) : (count : Nat) → (offset : Nat) →
    List Symbol
  | 0, _ => []
  | count + 1, offset =>
    match fields? f.order bytes offset [4, 1, 1, 2, f.word] with
    | some [nameOffset, kind, sectionIndex, _, value] =>
      let rest := symbols f bytes names count (offset + 8 + f.word)
      match text? bytes (names + nameOffset) with
      | some name => { name, kind, sectionIndex, value } :: rest
      | none => rest
    | _ => []

/-- The table of symbols; the names come behind the symbols. -/
def symbolTable? (f : Format) (bytes : ByteArray) (offset : Nat) : Option (List Symbol) := do
  match ← fields? f.order bytes (offset + 8) [4, 4, 4, 4] with
  | [start, count, names, _] =>
    if names < start ∨ bytes.size ≤ start then none
    else some (symbols f bytes names (Nat.min count bytes.size) start)
  | _ => none

/-! ## Load commands -/

/-- The register with the next instruction, by its position among the saved ones. -/
def nextInstruction? (processor : Nat) (registers : List Nat) : Option Nat :=
  let register (i : Nat) : Nat := registers[i]?.getD 0
  match processor with
  | 7 => some (register 10)
  | 0x01000007 => some (register 32 + register 33 <<< 32)
  | 12 => some (register 15)
  | 0x0100000c | 0x0200000c => some (register 64 + register 65 <<< 32)
  | 18 => some (register 0)
  | 0x01000012 => some (register 0 <<< 32 + register 1)
  | _ => none

/-- Where a thread begins. -/
def threadStart? (f : Format) (processor : Nat) (bytes : ByteArray) (offset : Nat) :
    Option Nat := do
  let count ← number? f.order bytes (offset + 12) 4
  if 70 < count then none
  else
    let registers ← fields? f.order bytes (offset + 16) (List.replicate count 4)
    nextInstruction? processor registers

/-- The name of a library, or of a directory with libraries, that a command asks for. -/
def library? (f : Format) (bytes : ByteArray) (offset : Nat) : Option String := do
  let name ← number? f.order bytes (offset + 8) 4
  text? bytes (offset + name)

def extent? (f : Format) (bytes : ByteArray) (offset : Nat) : Option Extent := do
  some ⟨← number? f.order bytes offset 4, ← number? f.order bytes (offset + 4) 4⟩

/-- How many bytes commands of some kinds have at least; those of other kinds have eight. -/
def leastSizes : List (Nat × List Nat) :=
  [ (12, [0x0e, 0x0f, 0x12, 0x13, 0x14, 0x15, 0x17, 0x27, 0x2d, 0x8000001c]),
    (16, [0x03, 0x09, 0x16, 0x1d, 0x1e, 0x24, 0x25, 0x26, 0x29, 0x2a, 0x2b, 0x2e, 0x2f, 0x30,
      0x80000033, 0x80000034]),
    (20, [0x06, 0x07, 0x10, 0x21]),
    (24, [0x02, 0x0c, 0x0d, 0x1b, 0x20, 0x2c, 0x32, 0x80000018, 0x8000001f, 0x80000023,
      0x80000028]),
    (40, [0x11]),
    (48, [0x22, 0x80000022]),
    (72, [0x1a]),
    (80, [0x0b]) ]

def leastSize (kind : Nat) : Nat :=
  match leastSizes.find? fun (_, kinds) => kinds.contains kind with
  | some (size, _) => size
  | none => 8

/-- What one more command, at an offset, says. -/
def addCommand? (f : Format) (processor : Nat) (bytes : ByteArray) (offset : Nat)
    (c : Commands) : Option Commands := do
  let kind ← number? f.order bytes offset 4
  let _ ← slice? bytes offset (leastSize kind)
  match kind with
  | 0x1 => some { c with segments := c.segments ++ [← segment? f 4 bytes offset] }
  | 0x19 => some { c with segments := c.segments ++ [← segment? f 8 bytes offset] }
  | 0x2 => some { c with symbols := ← symbolTable? f bytes offset }
  | 0x0c | 0x0d | 0x20 | 0x80000018 | 0x8000001c | 0x8000001f | 0x80000023 =>
    let _ ← library? f bytes offset
    some c
  | 0x22 | 0x80000022 =>
    some { c with
      bindings := some (← extent? f bytes (offset + 16), ← extent? f bytes (offset + 32))
      exportTrie := some (← extent? f bytes (offset + 40)) }
  | 0x80000033 => some { c with exportTrie := some (← extent? f bytes (offset + 8)) }
  | 0x5 =>
    if c.threadStart.isSome then some c
    else some { c with threadStart := some (← threadStart? f processor bytes offset) }
  | 0x80000028 =>
    if c.mainOffset.isSome then some c
    else some { c with mainOffset := some (← number? f.order bytes (offset + 8) 8) }
  | _ => some c

/-- The commands from an offset on, each of which says where the next one begins. -/
def commands? (f : Format) (processor : Nat) (bytes : ByteArray) : (count : Nat) →
    (offset : Nat) → Commands → Option Commands
  | 0, _, c => some c
  | count + 1, offset, c => do
    let size ← number? f.order bytes (offset + 4) 4
    commands? f processor bytes count (offset + size) (← addCommand? f processor bytes offset c)

/-! ## Imports -/

/-- What the next import will be. -/
structure Binding where
  name : String := ""
  segment : Nat := 0
  offset : UInt64 := 0

/-- The address of the next import. -/
def Binding.bound (segments : List Segment) (b : Binding) : NamedAddress :=
  let base := (segments[b.segment]?.map (·.address)).getD 0
  ⟨b.name, b.offset + UInt64.ofNat base⟩

/-- The binding moved on by an address and a gap. -/
def Binding.advance (f : Format) (b : Binding) (gap : Nat) : Binding :=
  { b with offset := b.offset + UInt64.ofNat (gap + f.word) }

/-- Several imports, one behind the other with a gap between them. -/
def Binding.repeated (f : Format) (segments : List Segment) (gap : Nat) : (count : Nat) →
    Binding → List NamedAddress × Binding
  | 0, b => ([], b)
  | count + 1, b =>
    let (rest, last) := repeated f segments gap count (b.advance f gap)
    (b.bound segments :: rest, last)

/-- Runs the instructions of a table of imports up to its end. -/
def bind? (f : Format) (bytes : ByteArray) (segments : List Segment) (stop : Nat) :
    (fuel : Nat) → (offset : Nat) → Binding → Option (List NamedAddress)
  | 0, _, _ => none
  | fuel + 1, offset, b =>
    if stop ≤ offset then some []
    else do
      let code ← bytes[offset]?
      let low := code.toNat % 16
      let next := offset + 1
      let goOn := bind? f bytes segments stop fuel
      match code.toNat / 16 with
      | 0x0 => goOn next {}
      | 0x2 | 0x6 =>
        let (_, next) ← groupedNumber? bytes next
        goOn next b
      | 0x4 =>
        let name ← text? bytes next
        goOn (next + name.utf8ByteSize + 1) { b with name }
      | 0x7 =>
        let (n, next) ← groupedNumber? bytes next
        goOn next { b with segment := low, offset := UInt64.ofNat n }
      | 0x8 =>
        let (n, next) ← groupedNumber? bytes next
        goOn next { b with offset := b.offset + UInt64.ofNat n }
      | 0x9 =>
        let rest ← goOn next (b.advance f 0)
        some (b.bound segments :: rest)
      | 0xa =>
        let (n, next) ← groupedNumber? bytes next
        let rest ← goOn next (b.advance f n)
        some (b.bound segments :: rest)
      | 0xb =>
        let rest ← goOn next (b.advance f (low * f.word))
        some (b.bound segments :: rest)
      | 0xc =>
        let (count, next) ← groupedNumber? bytes next
        let (gap, next) ← groupedNumber? bytes next
        let (here, b) := b.repeated f segments gap count
        let rest ← goOn next b
        some (here ++ rest)
      | _ => goOn next b

/-- The imports of both tables; none at all if one of them cannot be read. -/
def imports (f : Format) (bytes : ByteArray) (c : Commands) : List NamedAddress :=
  match c.bindings with
  | none => []
  | some (early, late) =>
    let run (e : Extent) : Option (List NamedAddress) :=
      bind? f bytes c.segments (e.start + e.size) (e.size + 1) e.start {}
    match run early, run late with
    | some a, some b => a ++ b
    | _, _ => []

/-! ## Exports -/

/-- The branches at an offset: what each adds to the name, and where it leads. -/
def branches? (bytes : ByteArray) (start : Nat) (lead : String) : (count : Nat) →
    (offset : Nat) → Option (List (String × Nat))
  | 0, _ => some []
  | count + 1, offset => do
    let label ← text? bytes offset
    let (node, next) ← groupedNumber? bytes (offset + label.utf8ByteSize + 1)
    let rest ← branches? bytes start lead count next
    some ((lead ++ label, start + node) :: rest)

/-- The address of an export; one that comes from elsewhere has none. -/
def exportAddress? (bytes : ByteArray) (flags offset : Nat) : Option UInt64 := do
  let kind := flags % 4
  if kind ≠ 3 ∧ flags / 8 % 2 = 1 then
    let (_, next) ← groupedNumber? bytes offset
    let _ ← text? bytes next
    some 0
  else
    let (address, next) ← groupedNumber? bytes offset
    if kind = 0 ∧ flags / 16 % 2 = 1 then
      let _ ← groupedNumber? bytes next
      some 0
    else some (UInt64.ofNat address)

/-- The exports below the nodes that are still to be visited. -/
def exportsFrom? (bytes : ByteArray) (start stop : Nat) : (fuel : Nat) →
    (nodes : List (String × Nat)) → Option (List NamedAddress)
  | 0, _ => none
  | _, [] => some []
  | fuel + 1, (name, offset) :: nodes =>
    if stop ≤ offset then exportsFrom? bytes start stop fuel nodes
    else do
      let (size, next) ← groupedNumber? bytes offset
      let (count, children) ← groupedNumber? bytes (next + size)
      if bytes.size < count then none
      else
        let here ←
          if size = 0 then some []
          else
            let (flags, place) ← groupedNumber? bytes next
            let address ← exportAddress? bytes flags place
            some [(⟨name, address⟩ : NamedAddress)]
        let below ← branches? bytes start name count children
        let rest ← exportsFrom? bytes start stop fuel (below ++ nodes)
        some (here ++ rest)

/-- The exports, in the order of the tree that they stand in. -/
def exports (bytes : ByteArray) (c : Commands) : List NamedAddress :=
  match c.exportTrie with
  | none => []
  | some e =>
    if bytes.size < e.start + e.size then []
    else
      (exportsFrom? bytes e.start (e.start + e.size) (e.size * e.size + 2) [("", e.start)]).getD []

/-! ## The image -/

/-- What is read of a file. -/
structure File where
  processor : Nat
  sections : List Section
  symbols : List Symbol
  imports : List NamedAddress
  exports : List NamedAddress
  entry : Nat

/-- The address at which the program begins; 0 if nothing says so. -/
def entryOffset (c : Commands) : Option Nat :=
  match c.mainOffset, c.threadStart with
  | some offset, _ =>
    (c.segments.find? fun s => s.name = "__TEXT").map fun s =>
      (s.address + 1 <<< 64 - s.fileOffset + offset) % 1 <<< 64
  | none, some address => some address
  | none, none => some 0

def read? (bytes : ByteArray) : Option File := do
  let f ← format? bytes
  let headerSize := if f.wide then 32 else 28
  let _ ← slice? bytes 0 headerSize
  match ← fields? f.order bytes 4 [4, 4, 4, 4, 4] with
  | [processor, _, _, count, size] =>
    if size / 8 < count ∨ bytes.size < size then none
    else
      let c ← commands? f processor bytes count headerSize {}
      let entry ← entryOffset c
      some { processor, sections := c.segments.flatMap (·.sections), symbols := c.symbols,
             imports := imports f bytes c, exports := exports bytes c, entry }
  | _ => none

def architecture? (processor : Nat) : Option Architecture :=
  match processor with
  | 7 => some .x86
  | 0x01000007 => some .x86_64
  | 12 => some .arm
  | 0x0100000c => some .arm64
  | _ => none

/-- Whether a symbol is a procedure: it has a name and stands in a section with code. -/
def Symbol.isProcedure (code : List Section) (s : Symbol) : Bool :=
  let isDebugging := 0x20 ≤ s.kind
  let isUndefined := s.sectionIndex = 0 && s.kind / 2 % 8 = 0
  !s.name.isEmpty && !isDebugging && !isUndefined && s.value ≠ 0
    && code.any fun t => t.contains (UInt64.ofNat s.value)

/-- The image of a file. -/
def image (file : File) : Image :=
  let code := file.sections.filter (·.holdsCode)
  let procedures := file.symbols.filter (Symbol.isProcedure code)
  { architecture := architecture? file.processor
    sections := file.sections
    procedures := procedures.map fun s =>
      { name := s.name, address := UInt64.ofNat s.value, size := none, sectionIndex := none }
    imports := file.imports
    exports := file.exports
    names := procedures.map fun s => ⟨s.name, UInt64.ofNat s.value⟩
    entry := if file.entry = 0 then none else some (UInt64.ofNat file.entry) }

end TechniqueScan.Binary.MachO
