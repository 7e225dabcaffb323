import TechniqueScan.Proofs.Binary.Addresses

/-!
The arithmetic on addresses with its checks. Here every difference, every sum of an address and every
slice is looked at before it is taken, and where one would leave the words or the bytes there is a fault.
There never is one, whatever the sections and procedures: with its checks the arithmetic comes out the same.
-/

namespace TechniqueScan.Binary

/-- What can go wrong in arithmetic on addresses and indices. -/
inductive Fault where
  /-- A difference is less than 0. -/
  | underflow
  /-- A sum is no word of 64 bits. -/
  | overflow
  /-- A slice reaches out of its bytes. -/
  | outOfBounds
  deriving DecidableEq, Repr

namespace Checked

/-! ## Operations -/

def sub (a b : UInt64) : Except Fault UInt64 :=
  if b ≤ a then .ok (a - b) else .error .underflow

/-- The address at some distance behind another one. -/
def add (a : UInt64) (distance : Nat) : Except Fault UInt64 :=
  if a.toNat + distance < UInt64.size then .ok (a + UInt64.ofNat distance) else .error .overflow

def indexSub (a b : Nat) : Except Fault Nat :=
  if b ≤ a then .ok (a - b) else .error .underflow

def slice (bytes : ByteArray) (start stop : Nat) : Except Fault ByteArray :=
  if start ≤ stop ∧ stop ≤ bytes.size then .ok (bytes.extract start stop) else .error .outOfBounds

theorem sub_ok {a b : UInt64} (atMost : b ≤ a) : sub a b = .ok (a - b) := if_pos atMost

theorem add_ok {a : UInt64} {distance : Nat} (fits : a.toNat + distance < UInt64.size) :
    add a distance = .ok (a + UInt64.ofNat distance) := if_pos fits

theorem indexSub_ok {a b : Nat} (atMost : b ≤ a) : indexSub a b = .ok (a - b) := if_pos atMost

theorem slice_ok {bytes : ByteArray} {start stop : Nat} (ascends : start ≤ stop)
    (inside : stop ≤ bytes.size) : slice bytes start stop = .ok (bytes.extract start stop) :=
  if_pos ⟨ascends, inside⟩

/-! ## Settling -/

/-- The number of bytes up to the next procedure or the end of the section. -/
def reach? (i : Image) (address : UInt64) (next : Option UInt64) : Except Fault (Option UInt64) :=
  match next, (i.sections.find? fun s => s.contains address).map (·.stop) with
  | some n, some stop => some <$> sub (if n < stop then n else stop) address
  | some n, none => some <$> sub n address
  | none, some stop => some <$> sub stop address
  | none, none => .ok none

/-- Procedures in order, each with its size as far as that can be told. -/
def sized (i : Image) : List Procedure → Except Fault (List Procedure)
  | [] => .ok []
  | p :: rest => do
    let size ← if p.size.isSome then .ok p.size else reach? i p.address (rest.head?.map (·.address))
    let later ← sized i rest
    .ok ({ p with size } :: later)

def settle (i : Image) : Except Fault Image := do
  let procedures ← sized i (Image.dropAliases (i.procedures.mergeSort Image.procedureOrder))
  .ok { i with procedures }

theorem reach?_ok {i : Image} {address : UInt64} {next : Option UInt64}
    (later : ∀ a, next = some a → address < a) :
    reach? i address next = .ok (i.reach? address next) := by
  have bounded : reach? i address next = (Image.nearer? next (i.sectionStop? address)).elim (.ok none)
      fun bound => some <$> sub bound address := by
    unfold reach? Image.sectionStop?
    cases next with
    | none => cases (i.sections.find? fun s => s.contains address).map (·.stop) <;> rfl
    | some a => cases (i.sections.find? fun s => s.contains address).map (·.stop) <;> rfl
  rw [bounded, Image.reach?_eq]
  cases told : Image.nearer? next (i.sectionStop? address) with
  | none => rfl
  | some bound =>
    have atMost := UInt64.le_of_lt (Image.lt_nearer later told)
    rw [Option.elim_some, sub_ok atMost]
    rfl

theorem sized_ok {i : Image} {ps : List Procedure}
    (ascends : ps.Pairwise fun p q => p.address < q.address) : sized i ps = .ok (i.sized ps) := by
  induction ps with
  | nil => rfl
  | cons p rest ih =>
    obtain ⟨first, ascends⟩ := List.pairwise_cons.mp ascends
    have later : ∀ a, rest.head?.map (·.address) = some a → p.address < a := by
      intro a next
      obtain ⟨q, isHead, rfl⟩ := Option.map_eq_some_iff.mp next
      exact first q (List.mem_of_mem_head? isHead)
    rw [sized, ih ascends, reach?_ok later, Image.sized]
    by_cases known : p.size.isSome
    · rw [if_pos known, if_pos known]
      rfl
    · rw [if_neg known, if_neg known]
      rfl

/-- No difference that settling takes is less than 0. -/
theorem settle_ok (i : Image) : settle i = .ok i.settle := by
  have ascends := List.pairwise_map.mp (Image.dropAliases_ascends i.sorted_addresses)
  rw [settle, Image.settle, Image.mergeSort_procedureOrder, sized_ok ascends]
  rfl

/-! ## Ranges -/

/--
The part of a file with some number of bytes from an address on. Indices end at a limit: a start beyond it
is no start, and a stop beyond it is the limit.
-/
def fileRange? (limit : Nat) (s : Section) (address : UInt64) (length : Option UInt64) (fileSize : Nat) :
    Except Fault (Option (Nat × Nat)) :=
  if s.contains address then do
    let available ← sub s.stop address
    let wanted := min (length.getD available) available
    let distance ← sub address s.start
    let start := s.fileOffset + distance.toNat
    if limit < start then .ok none
    else
      let stop := min (min (start + wanted.toNat) limit) fileSize
      .ok (if start < stop then some (start, stop) else none)
  else .ok none

theorem toNat_wanted (length : Option UInt64) (available : UInt64) :
    (min (length.getD available) available).toNat =
      Nat.min ((length.map (·.toNat)).getD available.toNat) available.toNat := by
  have words (a b : UInt64) : (min a b).toNat = Nat.min a.toNat b.toNat := by
    rw [Std.min_eq_if]
    split
    case isTrue atMost => exact (Nat.min_eq_left (UInt64.le_iff_toNat_le.mp atMost)).symm
    case isFalse above =>
      have atMost := UInt64.le_of_lt (UInt64.not_le.mp above)
      exact (Nat.min_eq_right (UInt64.le_iff_toNat_le.mp atMost)).symm
  rw [words]
  cases length with
  | none => rfl
  | some n => rfl

/-- Where every byte of a file has an index, ranges of it do not depend on where indices end. -/
theorem fileRange?_ok {limit fileSize : Nat} (indexed : fileSize ≤ limit) (s : Section) (address : UInt64)
    (length : Option UInt64) :
    fileRange? limit s address length fileSize = .ok (s.fileRange? address length fileSize) := by
  have saturates (stop : Nat) : min (min stop limit) fileSize = Nat.min stop fileSize := by
    rw [Nat.min_assoc, Nat.min_eq_right indexed]
  unfold fileRange? Section.fileRange?
  by_cases inside : s.contains address
  · obtain ⟨notBefore, before⟩ := Section.contains_iff.mp inside
    rw [if_pos inside, if_pos inside, sub_ok (UInt64.le_of_lt before), sub_ok notBefore]
    simp only [bind, Except.bind, toNat_wanted, saturates]
    split
    case isTrue beyond =>
      rw [if_neg]
      intro filled
      have inFile := Nat.lt_of_lt_of_le filled (Nat.min_le_right _ _)
      omega
    case isFalse => rfl
  · rw [if_neg inside, if_neg inside]

/-- The code of a procedure: in its own section, or in the first one that its address lies in. -/
def code? (limit : Nat) (x : Disassembly.Context) (p : Procedure) (content : ByteArray) :
    Except Fault (Option ByteArray) := do
  let range ← (x.image.sections.zipIdx.filter fun (_, i) => p.sectionIndex.all (· = i)).findSomeM?
    fun (s, _) => fileRange? limit s p.address p.size content.size
  match range with
  | some (start, stop) => some <$> slice content start stop
  | none => .ok none

theorem codeRange?_inFile {x : Disassembly.Context} {p : Procedure} {fileSize start stop : Nat}
    (found : x.codeRange? p fileSize = some (start, stop)) : start ≤ stop ∧ stop ≤ fileSize := by
  obtain ⟨⟨s, _⟩, _, found⟩ := List.exists_of_findSome?_eq_some found
  have covers := Section.fileRange?_covers found
  exact ⟨Nat.le_of_lt covers.filled, covers.inFile⟩

/-- The code of a procedure lies in the file. -/
theorem code?_ok {limit : Nat} {content : ByteArray} (indexed : content.size ≤ limit)
    (x : Disassembly.Context) (p : Procedure) :
    code? limit x p content =
      .ok ((x.codeRange? p content.size).map fun (start, stop) => content.extract start stop) := by
  have ranges : (x.image.sections.zipIdx.filter fun (_, i) => p.sectionIndex.all (· = i)).findSomeM?
      (fun (s, _) => fileRange? limit s p.address p.size content.size) =
        Except.ok (x.codeRange? p content.size) := by
    simp only [fileRange?_ok indexed]
    exact List.findSomeM?_pure
  rw [code?, ranges]
  cases found : x.codeRange? p content.size with
  | none => rfl
  | some range =>
    obtain ⟨ascends, inFile⟩ := codeRange?_inFile found
    show some <$> slice content range.1 range.2 = _
    rw [slice_ok ascends inFile]
    rfl

/-! ## Texts -/

/-- The text of a run between two indices of the bytes of a section, if it is long enough. -/
def runText (base : UInt64) (data : ByteArray) (start stop : Nat) :
    Except Fault (List (UInt64 × String)) := do
  let length ← indexSub stop start
  if length < Image.shortestText then .ok []
  else
    let text ← slice data start stop
    let address ← add base start
    .ok [(address, String.ofList (text.data.toList.map fun b => Char.ofNat b.toNat))]

/-- The runs of printable bytes from an index on; one may have begun before. -/
def scan (base : UInt64) (data : ByteArray) :
    (index : Nat) → (begun : Option Nat) → List UInt8 → Except Fault (List (UInt64 × String))
  | _, none, [] => .ok []
  | _, some start, [] => runText base data start data.size
  | index, none, b :: bs =>
    scan base data (index + 1) (if Image.isTextByte b then some index else none) bs
  | index, some start, b :: bs =>
    if Image.isTextByte b then scan base data (index + 1) (some start) bs
    else do
      let ended ← runText base data start index
      let later ← scan base data (index + 1) none bs
      .ok (ended ++ later)

/-- Whether a run is what is left of the bytes passed, from the index where it began. -/
def IsRun (base : UInt64) (passed : List UInt8) (begun : Option Nat) (start : UInt64) (run : List UInt8) :
    Prop :=
  match begun with
  | none => run = []
  | some i => i < passed.length ∧ start = base + UInt64.ofNat i ∧ run.reverse = passed.drop i

theorem isRun_begins (base : UInt64) (passed : List UInt8) (b : UInt8) :
    IsRun base (passed ++ [b]) (some passed.length) (base + UInt64.ofNat passed.length) [b] :=
  ⟨by simp, rfl, by simp⟩

theorem IsRun.continues {base start : UInt64} {passed run : List UInt8} {i : Nat}
    (isRun : IsRun base passed (some i) start run) (b : UInt8) :
    IsRun base (passed ++ [b]) (some i) start (b :: run) := by
  obtain ⟨begun, address, reversed⟩ := isRun
  refine ⟨begun.trans_le (by simp), address, ?_⟩
  rw [List.reverse_cons, reversed, List.drop_append_of_le_length (Nat.le_of_lt begun)]

theorem IsRun.ne_nil {base start : UInt64} {passed run : List UInt8} {i : Nat}
    (isRun : IsRun base passed (some i) start run) : run ≠ [] := by
  rintro rfl
  obtain ⟨begun, _, reversed⟩ := isRun
  exact absurd (List.drop_eq_nil_iff.mp reversed.symm) (Nat.not_le_of_lt begun)

section Scan

variable {base : UInt64} {data : ByteArray} (fits : base.toNat + data.size ≤ UInt64.size)

include fits

theorem runText_ok {passed rest : List UInt8} (split : data.data.toList = passed ++ rest) {i : Nat}
    {start : UInt64} {run : List UInt8} (isRun : IsRun base passed (some i) start run) :
    runText base data i passed.length = .ok (Image.runs.ended start run) := by
  obtain ⟨begun, rfl, reversed⟩ := isRun
  have size : data.size = passed.length + rest.length := by
    rw [← List.length_append, ← split]
    rfl
  have length : run.length = passed.length - i := by
    rw [← List.length_reverse, reversed, List.length_drop]
  have text : (data.extract i passed.length).data.toList = run.reverse := by
    rw [reversed, ByteArray.data_extract, Array.toList_extract, split, List.extract_eq_take_drop,
      List.drop_append_of_le_length (Nat.le_of_lt begun), List.take_left' List.length_drop]
  rw [runText, indexSub_ok (Nat.le_of_lt begun), Image.runs.ended, length]
  by_cases short : passed.length - i < Image.shortestText
  · simp only [bind, Except.bind, if_pos short]
  · rw [slice_ok (Nat.le_of_lt begun) (by omega), add_ok (by omega)]
    simp only [bind, Except.bind, if_neg short, text]

/-- Scanning by index finds what scanning byte by byte finds. -/
theorem scan_ok {passed rest : List UInt8} (split : data.data.toList = passed ++ rest) {begun : Option Nat}
    {start : UInt64} {run : List UInt8} (isRun : IsRun base passed begun start run) :
    scan base data passed.length begun rest =
      .ok (Image.runs.go start run (base + UInt64.ofNat passed.length) rest) := by
  induction rest generalizing passed begun start run with
  | nil =>
    cases begun with
    | none =>
      obtain rfl : run = [] := isRun
      rfl
    | some i =>
      have whole : data.size = passed.length := by
        rw [List.append_nil] at split
        rw [← split]
        rfl
      rw [scan, whole]
      exact runText_ok fits split isRun
  | cons b rest ih =>
    have split' : data.data.toList = (passed ++ [b]) ++ rest := by rw [split, List.append_assoc]; rfl
    have next : (passed ++ [b]).length = passed.length + 1 := List.length_append
    have here : base + UInt64.ofNat passed.length + 1 = base + UInt64.ofNat (passed ++ [b]).length := by
      rw [next, UInt64.ofNat_add, ← UInt64.add_assoc]
      rfl
    rw [Image.runs.go, here]
    cases begun with
    | none =>
      obtain rfl : run = [] := isRun
      rw [scan, ← next]
      by_cases text : Image.isTextByte b
      · rw [if_pos text, if_pos text]
        exact ih split' (isRun_begins base passed b)
      · rw [if_neg text, if_neg text]
        exact ih split' rfl
    | some i =>
      rw [scan, ← next]
      by_cases text : Image.isTextByte b
      · rw [if_pos text, if_pos text, if_neg (by simpa using isRun.ne_nil)]
        exact ih split' (isRun.continues b)
      · have later : scan base data (passed ++ [b]).length none rest = .ok (Image.runs.go start []
            (base + UInt64.ofNat (passed ++ [b]).length) rest) := ih split' rfl
        rw [if_neg text, if_neg text, runText_ok fits split isRun, later]
        rfl

/-- No text of a section has an address beyond the words, and none lies outside of its bytes. -/
theorem scan_runs : scan base data 0 none data.data.toList = .ok (Image.runs base data.data.toList) := by
  have scanned : scan base data 0 none data.data.toList =
      .ok (Image.runs.go base [] (base + UInt64.ofNat 0) data.data.toList) :=
    scan_ok fits (List.nil_append _).symm rfl
  rw [scanned, Image.runs]
  simp

end Scan

/-- The texts of a section, if it is one with texts. -/
def sectionTexts (limit : Nat) (content : ByteArray) (s : Section) :
    Except Fault (List (UInt64 × String)) :=
  if Image.textSections.any fun t => t.isPrefixOf s.name then do
    let range ← fileRange? limit s s.start none content.size
    match range with
    | some (start, stop) =>
      let data ← slice content start stop
      scan s.start data 0 none data.data.toList
    | none => .ok []
  else .ok []

/-- The texts of the sections with texts; of several at one address the last one holds. -/
def strings (limit : Nat) (i : Image) (content : ByteArray) : Except Fault (List (UInt64 × String)) := do
  let found ← i.sections.mapM (sectionTexts limit content)
  .ok (found.flatten.foldl (fun kept (address, text) =>
    kept.filter (fun (a, _) => a ≠ address) ++ [(address, text)]) [])

theorem sectionTexts_ok {limit : Nat} {content : ByteArray} (indexed : content.size ≤ limit) (s : Section) :
    sectionTexts limit content s = .ok (if Image.textSections.any fun t => t.isPrefixOf s.name then
      match s.fileRange? s.start none content.size with
      | some (start, stop) => Image.runs s.start (content.extract start stop).data.toList
      | none => []
    else []) := by
  unfold sectionTexts
  by_cases named : Image.textSections.any fun t => t.isPrefixOf s.name
  · rw [if_pos named, if_pos named, fileRange?_ok indexed]
    cases found : s.fileRange? s.start none content.size with
    | none => rfl
    | some range =>
      have covers := Section.fileRange?_covers found
      -- The bytes are no more than the section has addresses, so each has an address.
      have fits : s.start.toNat + (content.extract range.1 range.2).size ≤ UInt64.size := by
        have word := UInt64.toNat_lt_size s.stop
        have before := UInt64.lt_iff_toNat_lt.mp covers.inside.2
        have short := covers.inSection
        rw [ByteArray.size_extract]
        omega
      simp only [bind, Except.bind, slice_ok (Nat.le_of_lt covers.filled) covers.inFile]
      exact scan_runs fits
  · rw [if_neg named, if_neg named]

theorem strings_ok {limit : Nat} {content : ByteArray} (indexed : content.size ≤ limit) (i : Image) :
    strings limit i content = .ok (i.strings content) := by
  have each : i.sections.mapM (sectionTexts limit content) = .ok (i.sections.map fun s =>
      if Image.textSections.any fun t => t.isPrefixOf s.name then
        match s.fileRange? s.start none content.size with
        | some (start, stop) => Image.runs s.start (content.extract start stop).data.toList
        | none => []
      else []) := by
    rw [funext (sectionTexts_ok indexed)]
    exact List.mapM_pure
  rw [strings, each, Image.strings, List.flatMap_def]
  rfl

end Checked

/-! ## All of it -/

namespace Image

/-- Arithmetic on the addresses of an image that never leaves the words, slices that never leave the file,
and sizes and ranges that end where they should. -/
structure KeepsBounds (limit : Nat) (i : Image) (content : ByteArray) : Prop where
  settles : Checked.settle i = .ok i.settle
  /-- A size that was not known before. -/
  told : ∀ (k : Nat) (p q : Procedure) (n : UInt64), i.settle.procedures[k]? = some q → i.Leads p →
    p.SizedTo q → p.size = none → q.size = some n →
    i.Extends q.address (i.settle.procedures[k + 1]?.map (·.address)) n
  ranges : ∀ (s : Section) (address : UInt64) (length : Option UInt64),
    Checked.fileRange? limit s address length content.size =
      .ok (s.fileRange? address length content.size)
  covers : ∀ (s : Section) (address : UInt64) (length : Option UInt64) (range : Nat × Nat),
    s.fileRange? address length content.size = some range → s.Covers address length content.size range
  code : ∀ (strings : List (UInt64 × String)) (decode : Machine.Decoder) (budget : Nat) (p : Procedure),
    Checked.code? limit ⟨i.settle, strings, decode, budget⟩ p content =
      .ok ((Disassembly.Context.codeRange? ⟨i.settle, strings, decode, budget⟩ p content.size).map
        fun (start, stop) => content.extract start stop)
  texts : Checked.strings limit i.settle content = .ok (i.settle.strings content)

/-- Whatever the sections, procedures and bytes, arithmetic on addresses stays within its bounds. -/
theorem keepsBounds (i : Image) {content : ByteArray} {limit : Nat} (indexed : content.size ≤ limit) :
    i.KeepsBounds limit content where
  settles := Checked.settle_ok i
  told _ _ _ _ placed leads same unknown size := settle_extends placed leads same unknown size
  ranges := Checked.fileRange?_ok indexed
  covers _ _ _ _ found := Section.fileRange?_covers found
  code _ _ _ p := Checked.code?_ok indexed _ p
  texts := Checked.strings_ok indexed i.settle

/-- Sections that overlap and end with the words, and procedures that begin together. -/
def crowded : Image where
  sections := [⟨".rodata", 0xfffffffffffffff0, 0xffffffffffffffff, 2, false⟩,
    ⟨".text", 0, 0xffffffffffffffff, 0xffffffffffffffff, true⟩,
    ⟨"__const", 8, 0xffffffffffffffff, 0, false⟩]
  procedures := [⟨"a", 16, none, none⟩, ⟨"b", 16, none, none⟩, ⟨"top", 0xfffffffffffffff0, none, none⟩]

def crowdedContent : ByteArray := ⟨#[0, 0, 97, 98, 99, 100, 0, 101]⟩

theorem crowded_settles : crowded.settle.procedures =
    [⟨"a", 16, some 0xffffffffffffffe0, none⟩, ⟨"top", 0xfffffffffffffff0, some 15, none⟩] := by
  have ordered : crowded.procedures.mergeSort procedureOrder = crowded.procedures :=
    List.mergeSort_of_pairwise (by decide +kernel)
  rw [settle, ordered]
  decide +kernel

theorem crowded_keepsBounds : crowdedContent.size ≤ UInt64.size - 1 ∧
    crowded.KeepsBounds (UInt64.size - 1) crowdedContent ∧
    crowded.settle.procedures =
      [⟨"a", 16, some 0xffffffffffffffe0, none⟩, ⟨"top", 0xfffffffffffffff0, some 15, none⟩] ∧
    crowded.settle.strings crowdedContent = [(0xfffffffffffffff0, "abcd"), (10, "abcd")] := by
  have indexed : crowdedContent.size ≤ UInt64.size - 1 := by decide
  exact ⟨indexed, keepsBounds crowded indexed, crowded_settles, by decide +kernel⟩

end Image

end TechniqueScan.Binary
