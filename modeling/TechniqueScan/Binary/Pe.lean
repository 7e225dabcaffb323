import TechniqueScan.Binary.Bytes
import TechniqueScan.Binary.Image

/-!
PE files. Addresses are relative to the image. A file is refused as a whole if its headers or its
imports cannot be read; exports that cannot be read are left out.
-/

namespace TechniqueScan.Binary.Pe

/-- An unsigned number in the order of bytes that all PE files have. -/
def word? (bytes : ByteArray) (offset width : Nat) : Option Nat :=
  number? .little bytes offset width

structure SectionHeader where
  name : String
  virtualSize : Nat
  address : Nat
  rawSize : Nat
  rawOffset : Nat
  characteristics : Nat

/-- A table that the optional header points to. -/
structure Directory where
  address : Nat
  size : Nat

/-- What the optional header says. -/
structure OptionalHeader where
  /-- Whether addresses have 64 bits. -/
  wide : Bool
  entry : Nat
  fileAlignment : Nat
  /-- The tables in their order; one that is not there is all zero. -/
  directories : List Directory

/-! ## Headers -/

/-- The text at the end of a section's name that is a decimal number, or one in base 64. -/
def longNameOffset? (name : List Char) : Option (Option Nat) :=
  match name with
  | '/' :: '/' :: digits => (digits.foldlM (fun n c => (base64Digit? c).map (64 * n + ·)) 0).map some
  | '/' :: digits =>
    let digits := match digits with
      | '+' :: more => more
      | _ => digits
    if digits.isEmpty || !digits.all Char.isDigit then none
    else some (some (digits.foldl (fun n c => 10 * n + (c.toNat - 48)) 0))
  | _ => some none
where
  base64Digit? (c : Char) : Option Nat :=
    if 'A' ≤ c ∧ c ≤ 'Z' then some (c.toNat - 65)
    else if 'a' ≤ c ∧ c ≤ 'z' then some (c.toNat - 71)
    else if c.isDigit then some (c.toNat + 4)
    else if c = '+' then some 62
    else if c = '/' then some 63
    else none

/-- A section header. A name that begins with a slash stands in the table of names. -/
def sectionHeader? (bytes : ByteArray) (names offset : Nat) : Option SectionHeader := do
  let _ ← slice? bytes offset 8
  match ← fields? .little bytes (offset + 8) [4, 4, 4, 4, 4, 4, 2, 2, 4] with
  | [virtualSize, address, rawSize, rawOffset, _, _, _, _, characteristics] =>
    let short := (fixedText? bytes offset 8).getD ""
    let name ←
      if bytes[offset]? = some 0x2f then
        match ← longNameOffset? short.toList with
        | some n => text? bytes (names + n)
        | none => none
      else some short
    some { name, virtualSize, address, rawSize, rawOffset, characteristics }
  | _ => none

def sectionHeaders? (bytes : ByteArray) (names offset : Nat) : (count : Nat) →
    Option (List SectionHeader)
  | 0 => some []
  | count + 1 => do
    let s ← sectionHeader? bytes names offset
    let rest ← sectionHeaders? bytes names (offset + 40) count
    some (s :: rest)

def directories? (bytes : ByteArray) (offset : Nat) : (count : Nat) → Option (List Directory)
  | 0 => some []
  | count + 1 => do
    let address ← word? bytes offset 4
    let size ← word? bytes (offset + 4) 4
    let rest ← directories? bytes (offset + 8) count
    some (⟨address, size⟩ :: rest)

/-- The optional header, in either of its two forms. -/
def optionalHeader? (bytes : ByteArray) (offset : Nat) : Option OptionalHeader := do
  let wide ← match ← word? bytes offset 2 with
    | 0x10b => some false
    | 0x20b => some true
    | _ => none
  let entry ← word? bytes (offset + 16) 4
  let fileAlignment ← word? bytes (offset + 36) 4
  let tables := offset + if wide then 112 else 96
  let count ← word? bytes (tables - 4) 4
  if 16 < count then none
  else
    let directories ← directories? bytes tables count
    some { wide, entry, fileAlignment, directories }

/-- A table that is there. -/
def OptionalHeader.directory? (h : OptionalHeader) (index : Nat) : Option Directory :=
  match h.directories[index]? with
  | some d => if d.address = 0 ∧ d.size = 0 then none else some d
  | none => none

/-! ## From addresses to places in the file -/

/-- The start of the block of 512 bytes that a section begins in. -/
def SectionHeader.blockStart (s : SectionHeader) : Nat := s.rawOffset / 512 * 512

/-- How many bytes of a section are loaded. -/
def SectionHeader.loadedSize (s : SectionHeader) (alignment : Nat) : Nat :=
  let pages (n : Nat) : Nat := (n + 0xfff) / 0x1000 * 0x1000
  let raw := (s.rawOffset + s.rawSize + alignment - 1) / alignment * alignment - s.blockStart
  let read := Nat.min raw (pages s.rawSize)
  if s.virtualSize = 0 then read else Nat.min read (pages s.virtualSize)

/-- Where an address stands in the file; nowhere if the alignment is no power of two. -/
def offsetOf? (sections : List SectionHeader) (alignment address : Nat) : Option Nat :=
  if alignment = 0 ∨ Nat.land alignment (alignment - 1) ≠ 0 then none
  else
    (sections.find? fun s =>
      s.address ≤ address && address < s.address + s.loadedSize alignment).map fun s =>
        address - s.address + s.blockStart

/-- The names of a file and where its addresses stand. -/
structure Context where
  bytes : ByteArray
  sections : List SectionHeader
  alignment : Nat

namespace Context

def offset? (x : Context) (address : Nat) : Option Nat := offsetOf? x.sections x.alignment address

def text? (x : Context) (address : Nat) : Option String :=
  (x.offset? address).bind (Binary.text? x.bytes)

end Context

/-! ## Imports -/

/-- The names that a list of imports asks for, each with the address where it is written. -/
def importNames? (x : Context) (width : Nat) : (fuel : Nat) → (offset : Nat) →
    Option (List NamedAddress)
  | 0, _ => none
  | fuel + 1, offset => do
    let item ← word? x.bytes offset width
    if item = 0 then some []
    else
      let isOrdinal := 1 <<< (8 * width - 1) ≤ item
      let found ←
        if isOrdinal then
          some [⟨"ORDINAL " ++ toString (item % 1 <<< 16), 0⟩]
        else
          let address := item % 1 <<< 31
          match x.offset? address with
          | none => some []
          | some place => do
            let _ ← word? x.bytes place 2
            let name ← text? x.bytes (place + 2)
            some [(⟨name, UInt64.ofNat address⟩ : NamedAddress)]
      let rest ← importNames? x width fuel (offset + width)
      some (found ++ rest)

/-- Whether a list of addresses ends inside the file. -/
def listEnds (x : Context) (width : Nat) : (fuel : Nat) → (offset : Nat) → Bool
  | 0, _ => false
  | fuel + 1, offset =>
    match word? x.bytes offset width with
    | none => false
    | some 0 => true
    | some _ => listEnds x width fuel (offset + width)

/-- The imports from the libraries that are listed from an offset on. -/
def imports? (x : Context) (width : Nat) : (fuel : Nat) → (offset : Nat) →
    Option (List NamedAddress)
  | 0, _ => none
  | fuel + 1, offset => do
    match ← fields? .little x.bytes offset [4, 4, 4, 4, 4] with
    | [0, 0, 0, 0, 0] => some []
    | [lookup, _, _, library, slots] =>
      let _ ← x.text? library
      let names ← match x.offset? lookup, x.offset? slots with
        | some place, _ => importNames? x width x.bytes.size place
        | none, some place => importNames? x width x.bytes.size place
        | none, none => some []
      let place ← x.offset? slots
      if listEnds x width x.bytes.size place then
        let rest ← imports? x width fuel (offset + 20)
        some (names ++ rest)
      else none
    | _ => none

/-! ## Exports -/

/-- Numbers one behind the other, up to the first that is not in the file. -/
def wordsFrom (bytes : ByteArray) (width : Nat) : (count : Nat) → (offset : Nat) → List Nat
  | 0, _ => []
  | count + 1, offset =>
    match word? bytes offset width with
    | some n => n :: wordsFrom bytes width count (offset + width)
    | none => []

/-- Whether a text names something in another library: by name, or by number. -/
def namesForeign (text : List Char) : Bool :=
  match (text.dropWhile (· ≠ '.')).drop 1 with
  | '#' :: digits => !digits.isEmpty && digits.all Char.isDigit
  | rest => !rest.isEmpty

/-- The address of an export; one that stands for something in another library says so there. -/
def exported? (x : Context) (d : Directory) (address : Nat) : Option Nat :=
  if d.address ≤ address ∧ address < d.address + d.size then
    match x.text? address with
    | some text => if namesForeign text.toList then some address else none
    | none => none
  else some address

/-- The exported names that can be read, each with its address; none if the table cannot be read. -/
def exports? (x : Context) (d : Directory) : Option (List NamedAddress) := do
  let place ← x.offset? d.address
  match ← fields? .little x.bytes place [4, 4, 2, 2, 4, 4, 4, 4, 4, 4, 4] with
  | [_, _, _, _, _, _, addressCount, nameCount, addresses, names, ordinals] =>
    if x.bytes.size < nameCount ∨ x.bytes.size < addressCount then none
    else
      let table (address width count : Nat) : List Nat :=
        match x.offset? address with
        | some place => wordsFrom x.bytes width count place
        | none => []
      let slots := table addresses 4 addressCount
      let positions := table ordinals 2 nameCount
      some ((table names 4 nameCount).zipIdx.filterMap fun (name, i) => do
        let position ← positions[i]?
        let slot ← slots[position]?
        let address ← exported? x d slot
        let name ← x.text? name
        if name.isEmpty ∨ address = 0 then none
        else some (⟨name, UInt64.ofNat address⟩ : NamedAddress))
  | _ => none

/-! ## The image -/

/-- What is read of a file. -/
structure File where
  machine : Nat
  sections : List SectionHeader
  entry : Nat
  imports : List NamedAddress
  exports : List NamedAddress

def read? (bytes : ByteArray) : Option File := do
  let start ← word? bytes 0x3c 4
  if (← word? bytes start 4) ≠ 0x4550 then none
  else
    let _ ← slice? bytes 0x40 64
    match ← fields? .little bytes (start + 4) [2, 2, 4, 4, 4, 2, 2] with
    | [machine, sectionCount, _, symbols, symbolCount, optionalSize, _] =>
      let optionalStart := start + 24
      let optional ←
        if optionalSize = 0 then some none else some <$> optionalHeader? bytes optionalStart
      if bytes.size / 40 < sectionCount then none
      else
        let sections ← sectionHeaders? bytes (symbols + 18 * symbolCount)
          (optionalStart + optionalSize) sectionCount
        match optional with
        | none => some { machine, sections, entry := 0, imports := [], exports := [] }
        | some h =>
          let x : Context := ⟨bytes, sections, h.fileAlignment⟩
          let exports := ((h.directory? 0).bind (exports? x)).getD []
          let imports ← match h.directory? 1 with
            | none => some []
            | some d => do imports? x (if h.wide then 8 else 4) bytes.size (← x.offset? d.address)
          some { machine, sections, entry := h.entry, imports, exports }
    | _ => none

def architecture? (machine : Nat) : Option Architecture :=
  match machine with
  | 0x14c => some .x86
  | 0x8664 => some .x86_64
  | 0x1c0 => some .arm
  | 0xaa64 => some .arm64
  | _ => none

def sectionOf (s : SectionHeader) : Section :=
  let size := if s.virtualSize = 0 then s.rawSize else s.virtualSize
  { name := s.name
    start := UInt64.ofNat s.address
    stop := UInt64.ofNat (s.address + size)
    fileOffset := s.rawOffset
    holdsCode := s.characteristics >>> 29 % 2 = 1 }

/-- The image of a file. Of several imports with one address the last one names it. -/
def image (file : File) : Image :=
  { architecture := architecture? file.machine
    sections := file.sections.map sectionOf
    procedures := file.exports.map fun e =>
      { name := e.name, address := e.address, size := none, sectionIndex := none }
    imports := file.imports
    exports := file.exports
    names := file.imports.reverse ++ file.exports
    entry := if file.entry = 0 then none else some (UInt64.ofNat file.entry) }

end TechniqueScan.Binary.Pe
