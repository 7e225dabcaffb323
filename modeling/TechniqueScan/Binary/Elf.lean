import TechniqueScan.Binary.Bytes
import TechniqueScan.Binary.Image

/-!
ELF files. A file is refused as a whole if one of its tables cannot be read.
-/

namespace TechniqueScan.Binary.Elf

/-- How numbers are laid out: their order of bytes, and whether addresses have 64 bits. -/
structure Format where
  order : ByteOrder
  wide : Bool

structure Header where
  machine : Nat
  entry : Nat
  programOffset : Nat
  sectionOffset : Nat
  programCount : Nat
  sectionCount : Nat
  nameSection : Nat

structure ProgramHeader where
  kind : Nat
  offset : Nat
  address : Nat
  fileSize : Nat
  memorySize : Nat

structure SectionHeader where
  name : Nat
  kind : Nat
  address : Nat
  offset : Nat
  size : Nat
  link : Nat
  info : Nat
  entrySize : Nat

structure Symbol where
  name : Nat
  info : Nat
  sectionIndex : Nat
  value : Nat
  size : Nat

/-- A place that is filled in later, and the symbol it is filled in with. -/
structure Entry where
  offset : Nat
  symbol : Nat

/-! ## Records -/

/-- The format that the first bytes announce. -/
def format? (bytes : ByteArray) : Option Format := do
  let cls ← bytes[4]?
  let data ← bytes[5]?
  let wide ← if cls = 2 then some true else if cls = 1 then some false else none
  let order ← if data = 1 then some ByteOrder.little else if data = 2 then some .big else none
  some ⟨order, wide⟩

/-- The width of an address. -/
def Format.word (f : Format) : Nat := if f.wide then 8 else 4

def header? (f : Format) (bytes : ByteArray) : Option Header := do
  let w := f.word
  match ← fields? f.order bytes 16 [2, 2, 4, w, w, w, 4, 2, 2, 2, 2, 2, 2] with
  | [_, machine, _, entry, programOffset, sectionOffset, _, _, _, programCount, _, sectionCount,
      nameSection] =>
    some { machine, entry, programOffset, sectionOffset, programCount, sectionCount, nameSection }
  | _ => none

def programHeader? (f : Format) (bytes : ByteArray) (offset : Nat) : Option ProgramHeader := do
  if f.wide then
    match ← fields? f.order bytes offset [4, 4, 8, 8, 8, 8, 8, 8] with
    | [kind, _, offset, address, _, fileSize, memorySize, _] =>
      some { kind, offset, address, fileSize, memorySize }
    | _ => none
  else
    match ← fields? f.order bytes offset [4, 4, 4, 4, 4, 4, 4, 4] with
    | [kind, offset, address, _, fileSize, memorySize, _, _] =>
      some { kind, offset, address, fileSize, memorySize }
    | _ => none

def sectionHeader? (f : Format) (bytes : ByteArray) (offset : Nat) : Option SectionHeader := do
  let w := f.word
  match ← fields? f.order bytes offset [4, 4, w, w, w, w, 4, 4, w, w] with
  | [name, kind, _, address, offset, size, link, info, _, entrySize] =>
    some { name, kind, address, offset, size, link, info, entrySize }
  | _ => none

def symbol? (f : Format) (bytes : ByteArray) (offset : Nat) : Option Symbol := do
  if f.wide then
    match ← fields? f.order bytes offset [4, 1, 1, 2, 8, 8] with
    | [name, info, _, sectionIndex, value, size] => some { name, info, sectionIndex, value, size }
    | _ => none
  else
    match ← fields? f.order bytes offset [4, 4, 4, 1, 1, 2] with
    | [name, value, size, info, _, sectionIndex] => some { name, info, sectionIndex, value, size }
    | _ => none

def readEntry (f : Format) (bytes : ByteArray) (offset : Nat) : Option Entry := do
  match ← fields? f.order bytes offset [f.word, f.word] with
  | [offset, info] => some ⟨offset, if f.wide then info >>> 32 else info >>> 8⟩
  | _ => none

/-- The sizes of the records. -/
def Format.programSize (f : Format) : Nat := if f.wide then 56 else 32

def Format.sectionSize (f : Format) : Nat := if f.wide then 64 else 40

def Format.symbolSize (f : Format) : Nat := if f.wide then 24 else 16

def Format.entrySize (f : Format) (hasAddend : Bool) : Nat :=
  if hasAddend then 3 * f.word else 2 * f.word

/-- Records of one kind, one behind the other. -/
def records? {α : Type} (read : Nat → Option α) (offset size : Nat) : (count : Nat) →
    Option (List α)
  | 0 => some []
  | count + 1 => do
    let a ← read offset
    let rest ← records? read (offset + size) size count
    some (a :: rest)

/-! ## Tables -/

/-- Names, each ended by a zero. -/
structure NameTable where
  bytes : ByteArray := ⟨#[]⟩

/-- Whether all names are UTF-8, from an offset on. -/
def NameTable.wellFormed (bytes : ByteArray) : (fuel : Nat) → (offset : Nat) → Bool
  | 0, _ => true
  | fuel + 1, offset =>
    if offset < bytes.size then
      let name := untilZero bytes offset bytes.size
      (textOfBytes? name).isSome && wellFormed bytes fuel (offset + name.length + 1)
    else true

def nameTable? (bytes : ByteArray) (offset size : Nat) : Option NameTable :=
  if offset + size ≤ bytes.size then
    let part := bytes.extract offset (offset + size)
    if NameTable.wellFormed part (size + 1) 0 then some ⟨part⟩ else none
  else none

/-- The name at an offset, or the end of one; no name is empty. -/
def NameTable.name? (t : NameTable) (offset : Nat) : Option String :=
  if offset < t.bytes.size then
    (text? t.bytes offset).filter fun s => !s.isEmpty
  else none

/-- A section has to lie in the file, unless it has no bytes there. -/
def SectionHeader.isInside (s : SectionHeader) (fileSize : Nat) : Bool :=
  s.kind = 8 || s.size = 0 || (s.offset + s.size ≤ fileSize && s.address + s.size < 1 <<< 64)

/-- The names in a section; none if there is no such section. -/
def namesOf? (bytes : ByteArray) (sections : List SectionHeader) (index : Nat) :
    Option NameTable :=
  let index := if index = 0xffff then (sections.head?.map (·.link)).getD 0 else index
  match sections[index]? with
  | none => some {}
  | some s => if s.isInside bytes.size then nameTable? bytes s.offset s.size else none

def programHeaders? (f : Format) (bytes : ByteArray) (h : Header) :
    Option (List ProgramHeader) :=
  if h.programCount * f.programSize ≤ bytes.size then
    records? (programHeader? f bytes) h.programOffset f.programSize h.programCount
  else none

/-- The section headers. Where there are too many to count, the first one says how many. -/
def sectionHeaders? (f : Format) (bytes : ByteArray) (h : Header) : Option (List SectionHeader) :=
  if h.sectionOffset = 0 then some []
  else do
    let first ← sectionHeader? f bytes h.sectionOffset
    let count := if h.sectionCount = 0 then first.size else h.sectionCount
    if bytes.size < count * f.sectionSize then none
    else
      let rest ← records? (sectionHeader? f bytes) (h.sectionOffset + f.sectionSize) f.sectionSize
        (count - 1)
      some (first :: rest)

def symbols? (f : Format) (bytes : ByteArray) (offset count : Nat) : Option (List Symbol) := do
  let part ← slice? bytes offset (count * f.symbolSize)
  records? (symbol? f part) 0 f.symbolSize count

def entries? (f : Format) (bytes : ByteArray) (hasAddend : Bool) (offset size : Nat) :
    Option (List Entry) :=
  if size = 0 then some []
  else do
    let part ← slice? bytes offset size
    records? (readEntry f part) 0 (f.entrySize hasAddend) (size / f.entrySize hasAddend)

/-! ## The dynamic section -/

/-- Where an address that is loaded stands in the file. -/
def fileOffset? (programs : List ProgramHeader) (address : Nat) : Option Nat :=
  match programs.find? fun p =>
      p.kind = 1 && p.address ≤ address && address - p.address < p.memorySize with
  | some p =>
    let offset := p.offset + (address - p.address)
    if offset < 1 <<< 64 then some offset else none
  | none => none

/-- The tagged values up to the one with tag zero. -/
def dynamicValues? (f : Format) (bytes : ByteArray) : (count : Nat) → (offset : Nat) →
    Option (List (Nat × Nat))
  | 0, _ => some []
  | count + 1, offset => do
    match ← fields? f.order bytes offset [f.word, f.word] with
    | [0, _] => some []
    | [tag, value] =>
      let rest ← dynamicValues? f bytes count (offset + 2 * f.word)
      some ((tag, value) :: rest)
    | _ => none

/-- The values of the dynamic section; nothing if there is none. -/
def dynamic? (f : Format) (bytes : ByteArray) (programs : List ProgramHeader) :
    Option (Option (List (Nat × Nat))) :=
  match programs.find? fun p => p.kind = 2 with
  | none => some none
  | some p =>
    if p.fileSize = 0 then some (some [])
    else do
      let part ← slice? bytes p.offset p.fileSize
      some (some (← dynamicValues? f part (p.fileSize / (2 * f.word)) 0))

/-- The greatest of the numbers that stand one behind the other. -/
def greatestWord? (f : Format) (bytes : ByteArray) : (count : Nat) → (offset : Nat) → Option Nat
  | 0, _ => some 0
  | count + 1, offset => do
    let n ← number? f.order bytes offset 4
    let rest ← greatestWord? f bytes count (offset + 4)
    some (Nat.max n rest)

/-- The number behind the last link of a chain of hashes; the last one is odd. -/
def chainEnd? (f : Format) (bytes : ByteArray) : (fuel : Nat) → (link offset : Nat) → Option Nat
  | 0, _, _ => none
  | fuel + 1, link, offset => do
    let hash ← number? f.order bytes offset 4
    if hash % 2 = 1 then some (link + 1) else chainEnd? f bytes fuel (link + 1) (offset + 4)

/-- The number of symbols that a hash table with a filter knows of. -/
def filteredHashCount? (f : Format) (bytes : ByteArray) (offset : Nat) : Option Nat := do
  let buckets ← number? f.order bytes offset 4
  let least ← number? f.order bytes (offset + 4) 4
  let filter ← number? f.order bytes (offset + 8) 4
  if buckets = 0 ∨ least = 0 ∨ filter = 0 then none
  else if bytes.size < buckets then none
  else
    let start := offset + 16 + filter * f.word
    let last ← greatestWord? f bytes buckets start
    if last < least then some 0
    else chainEnd? f bytes bytes.size last (start + buckets * 4 + (last - least) * 4)

/-- The number of symbols that a plain hash table knows of. -/
def hashCount? (f : Format) (machine : Nat) (bytes : ByteArray) (offset : Nat) : Option Nat :=
  number? f.order bytes (offset + 4) (if f.wide ∧ (machine = 0x9026 ∨ machine = 22) then 8 else 4)

/-- The symbols that are bound when the file is loaded, and their names. -/
def dynamicSymbols? (f : Format) (bytes : ByteArray) (machine : Nat)
    (programs : List ProgramHeader) (values : List (Nat × Nat)) :
    Option (List Symbol × NameTable) := do
  let last? (tag : Nat) : Option Nat := values.reverse.lookup tag
  let value (tag : Nat) : Nat := (last? tag).getD 0
  let located? (tag : Nat) : Option Nat := (last? tag).bind (fileOffset? programs)
  let located (tag : Nat) : Nat := (located? tag).getD 0
  let names ← nameTable? bytes (located 5) (value 10)
  let withAddends ← entries? f bytes true (located 7) (value 8)
  let plain ← entries? f bytes false (located 17) (value 18)
  let lazily ← entries? f bytes (value 20 = 7) (located 23) (value 2)
  let hashed ← match located? 0x6ffffef5, located? 4 with
    | some offset, _ => filteredHashCount? f bytes offset
    | none, some offset => hashCount? f machine bytes offset
    | none, none => some 0
  let bound := (withAddends ++ plain ++ lazily).foldl (fun n e => Nat.max n e.symbol) 0
  let count := if bound = 0 then hashed else Nat.max hashed (bound + 1)
  let symbols ← symbols? f bytes (located 6) count
  some (symbols, names)

/-! ## The image -/

/-- What is read of a file. -/
structure File where
  header : Header
  sections : List SectionHeader
  sectionNames : NameTable
  symbols : List Symbol
  names : NameTable
  dynamicSymbols : List Symbol
  dynamicNames : NameTable
  /-- The entries of each section that has some, with the section's position. -/
  entries : List (Nat × List Entry)

/-- The last table of symbols. -/
def staticSymbols? (f : Format) (bytes : ByteArray) (sections : List SectionHeader) :
    Option (List Symbol × NameTable) :=
  match sections.reverse.find? fun s => s.kind = 2 with
  | none => some ([], {})
  | some s => do
    let count := if s.entrySize = 0 then 0 else s.size / s.entrySize
    let symbols ← symbols? f bytes s.offset count
    let names ← namesOf? bytes sections s.link
    some (symbols, names)

/-- The entries of the sections from a position on. -/
def sectionEntries? (f : Format) (bytes : ByteArray) : (index : Nat) → List SectionHeader →
    Option (List (Nat × List Entry))
  | _, [] => some []
  | index, s :: rest => do
    if s.kind = 4 ∨ s.kind = 9 then
      if s.isInside bytes.size then
        let entries ← entries? f bytes (s.kind = 4) s.offset s.size
        let more ← sectionEntries? f bytes (index + 1) rest
        some ((index, entries) :: more)
      else none
    else sectionEntries? f bytes (index + 1) rest

/-- The sections with versions of symbols, the first one of each kind, have to be in the file. -/
def versionsInside (bytes : ByteArray) (sections : List SectionHeader) : Bool :=
  [0x6fffffff, 0x6ffffffd, 0x6ffffffe].all fun kind =>
    match sections.find? fun s => s.kind = kind with
    | some s => (slice? bytes s.offset s.size).isSome
    | none => true

def read? (bytes : ByteArray) : Option File := do
  let f ← format? bytes
  let header ← header? f bytes
  let programs ← programHeaders? f bytes header
  let sections ← sectionHeaders? f bytes header
  let sectionNames ← namesOf? bytes sections header.nameSection
  let (symbols, names) ← staticSymbols? f bytes sections
  let (dynamicSymbols, dynamicNames) ← match ← dynamic? f bytes programs with
    | none => some ([], {})
    | some values => dynamicSymbols? f bytes header.machine programs values
  let entries ← sectionEntries? f bytes 0 sections
  if versionsInside bytes sections then
    some { header, sections, sectionNames, symbols, names, dynamicSymbols, dynamicNames, entries }
  else none

def architecture? (machine : Nat) : Option Architecture :=
  match machine with
  | 62 => some .x86_64
  | 3 => some .x86
  | 183 => some .arm64
  | 40 => some .arm
  | _ => none

/-- A sum of two addresses, at most the greatest address. -/
def saturatingSum (a b : Nat) : UInt64 := UInt64.ofNat (Nat.min (a + b) (1 <<< 64 - 1))

def sectionOf (names : NameTable) (s : SectionHeader) : Section :=
  { name := (names.name? s.name).getD ""
    start := UInt64.ofNat s.address
    stop := saturatingSum s.address s.size
    fileOffset := s.offset }

namespace Symbol

def isUndefined (s : Symbol) : Bool := s.sectionIndex = 0

def kind (s : Symbol) : Nat := s.info % 16

def isLocal (s : Symbol) : Bool := s.info / 16 = 0

end Symbol

/-- Adds what a symbol says: an import if it is defined elsewhere, a procedure if it is one. -/
def addSymbol (names : NameTable) (i : Image) (s : Symbol) : Image :=
  match names.name? s.name with
  | none => i
  | some name =>
    let value := UInt64.ofNat s.value
    if s.isUndefined then
      if s.kind = 3 ∨ i.imports.any fun m => m.name = name then i
      else { i with imports := i.imports ++ [⟨name, 0⟩] }
    else if s.kind ≠ 2 then i
    else
      { i with
        exports := if s.isLocal then i.exports else i.exports ++ [⟨name, value⟩]
        names := i.names ++ [⟨name, value⟩]
        procedures := i.procedures ++
          [{ name, address := value
             size := if s.size = 0 then none else some (UInt64.ofNat s.size)
             sectionIndex := some s.sectionIndex }] }

/-- The names that calls in relocatable sections are bound to. -/
def relocationsOf (file : File) : List Relocation :=
  file.entries.flatMap fun (index, entries) =>
    match file.sections[index]? with
    | none => []
    | some s => entries.filterMap fun e =>
      ((file.symbols[e.symbol]?).bind fun symbol => file.names.name? symbol.name).map fun name =>
        { sectionIndex := s.info, offset := UInt64.ofNat e.offset, name }

/-- The image of a file. -/
def image (file : File) : Image :=
  let start : Image :=
    { architecture := architecture? file.header.machine
      sections := file.sections.map (sectionOf file.sectionNames)
      relocations := relocationsOf file
      entry := if file.header.entry = 0 then none else some (UInt64.ofNat file.header.entry) }
  file.dynamicSymbols.foldl (addSymbol file.dynamicNames)
    (file.symbols.foldl (addSymbol file.names) start)

end TechniqueScan.Binary.Elf
