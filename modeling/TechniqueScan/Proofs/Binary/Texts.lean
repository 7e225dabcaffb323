import Mathlib.Data.List.Induction
import Mathlib.Data.List.TakeWhile
import TechniqueScan.Proofs.Binary.Addresses

/-!
The texts of an image. In one section exactly the runs of printable bytes are found that are long enough and
cannot be extended. All sections share one table by addresses, in which a later text takes the place of an
earlier one; so every text is kept exactly if sections with texts agree wherever their addresses coincide.
-/

namespace TechniqueScan.Binary

/-! ## Runs -/

namespace Image

/-- The printable bytes: visible characters, blanks and tabs. -/
theorem isTextByte_iff {b : UInt8} : isTextByte b ↔ (0x21 ≤ b ∧ b ≤ 0x7e) ∨ b = 0x20 ∨ b = 9 := by
  simp only [isTextByte, Bool.or_eq_true, Bool.and_eq_true, decide_eq_true_eq, beq_iff_eq,
    UInt8.le_iff_toNat_le, UInt8.lt_iff_toNat_lt, ← UInt8.toNat_inj, UInt8.reduceToNat]
  omega

/-- A run of printable bytes that is long enough and cannot be extended on either side. -/
structure MaximalRun (before run after : List UInt8) : Prop where
  long : shortestText ≤ run.length
  printable : ∀ b ∈ run, isTextByte b
  begins : ∀ b, before.getLast? = some b → isTextByte b = false
  ends : ∀ b, after.head? = some b → isTextByte b = false

theorem MaximalRun.filled {before run after : List UInt8} (maximal : MaximalRun before run after) :
    run ≠ [] :=
  List.ne_nil_of_length_pos (Nat.lt_of_lt_of_le (by decide) maximal.long)

/-- Bytes that are printable up to one that is not determine where that is. -/
theorem printable_unique {first rest first' rest' : List UInt8} (same : first ++ rest = first' ++ rest')
    (printable : ∀ b ∈ first, isTextByte b) (ends : ∀ b, rest.head? = some b → isTextByte b = false)
    (printable' : ∀ b ∈ first', isTextByte b) (ends' : ∀ b, rest'.head? = some b → isTextByte b = false) :
    first = first' ∧ rest = rest' := by
  have stops {first rest : List UInt8} (printable : ∀ b ∈ first, isTextByte b)
      (ends : ∀ b, rest.head? = some b → isTextByte b = false) :
      (first ++ rest).takeWhile isTextByte = first := by
    rw [List.takeWhile_append_of_pos printable]
    cases rest with
    | nil => simp
    | cons b rest => simp [ends b rfl]
  have equal : first = first' := by
    rw [← stops printable ends, same, stops printable' ends']
  subst equal
  exact ⟨rfl, List.append_cancel_left same⟩

/-- A run that begins no earlier than a printable word, behind which nothing printable follows, is that word or
begins behind it. -/
theorem MaximalRun.first {before run after done word rest : List UInt8}
    (maximal : MaximalRun before run after) (split : done ++ word ++ rest = before ++ run ++ after)
    (later : done.length ≤ before.length) (printable : ∀ b ∈ word, isTextByte b)
    (ends : ∀ b, rest.head? = some b → isTextByte b = false) :
    (before = done ∧ run = word ∧ after = rest) ∨ (done ++ word).length < before.length := by
  rw [List.append_assoc, List.append_assoc] at split
  obtain ⟨between, rfl, behind⟩ : ∃ between, before = done ++ between ∧
      word ++ rest = between ++ (run ++ after) := by
    rcases List.append_eq_append_iff.mp split with ⟨between, same, behind⟩ | ⟨between, same, behind⟩
    · exact ⟨between, same, behind⟩
    · obtain rfl : between = [] := by
        have lengths := congrArg List.length same
        rw [List.length_append] at lengths
        exact List.length_eq_zero_iff.mp (by omega)
      exact ⟨[], by simpa using same.symm, by simpa using behind.symm⟩
  rcases List.append_eq_append_iff.mp behind with ⟨gap, rfl, cut⟩ | ⟨tail, rfl, cut⟩
  · cases gap with
    | nil =>
      -- The run would begin with the byte that ends the word.
      obtain ⟨b, bs, rfl⟩ := List.exists_cons_of_ne_nil maximal.filled
      have blank := ends b (by simp [cut])
      rw [maximal.printable b List.mem_cons_self] at blank
      cases blank
    | cons b bs =>
      refine .inr ?_
      simp
  · cases last : between.getLast? with
    | none =>
      obtain rfl := List.getLast?_eq_none_iff.mp last
      obtain ⟨rfl, rfl⟩ := printable_unique cut maximal.printable maximal.ends
        (fun b member => printable b (by simpa using member)) ends
      exact .inl ⟨by simp, by simp, rfl⟩
    | some b =>
      -- The byte in front of the run would be one of the word.
      have blank := maximal.begins b (by simp [List.getLast?_append, last])
      rw [printable b (List.mem_append_left _ (List.mem_of_getLast? last))] at blank
      cases blank

/-- The text with some bytes, one character for each. -/
def textOf (run : List UInt8) : String := String.ofList (run.map fun b => Char.ofNat b.toNat)

theorem mem_ended_iff {start a : UInt64} {run : List UInt8} {t : String} :
    (a, t) ∈ runs.ended start run ↔ shortestText ≤ run.length ∧ a = start ∧ t = textOf run.reverse := by
  rw [runs.ended]
  split
  case isTrue short => simp [Nat.not_le_of_lt short]
  case isFalse long => simp [Nat.le_of_not_lt long, textOf]

/-- Whether a run of some bytes, which lie at an address, begins behind a number of them. -/
def RunFrom (base : UInt64) (bytes : List UInt8) (n : Nat) (a : UInt64) (t : String) : Prop :=
  ∃ before run after, bytes = before ++ run ++ after ∧ MaximalRun before run after ∧ n ≤ before.length ∧
    a = base + UInt64.ofNat before.length ∧ t = textOf run

/-- When a run has come to its end, it is found, and so are the later ones. -/
theorem runFrom_iff {base start a : UInt64} {done run rest : List UInt8} {t : String}
    (begins : ∀ b, done.getLast? = some b → isTextByte b = false) (printable : ∀ b ∈ run, isTextByte b)
    (placed : run ≠ [] → start = base + UInt64.ofNat done.length)
    (ends : ∀ b, rest.head? = some b → isTextByte b = false) :
    RunFrom base (done ++ run.reverse ++ rest) done.length a t ↔ (a, t) ∈ runs.ended start run ∨
      RunFrom base (done ++ run.reverse ++ rest) (done.length + run.length + 1) a t := by
  have printable' : ∀ b ∈ run.reverse, isTextByte b :=
    fun b member => printable b (List.mem_reverse.mp member)
  rw [mem_ended_iff]
  constructor
  · rintro ⟨before, word, after, split, maximal, later, rfl, rfl⟩
    rcases maximal.first split later printable' ends with ⟨rfl, rfl, rfl⟩ | behind
    · have filled : run ≠ [] := fun empty => maximal.filled (by rw [empty]; rfl)
      exact .inl ⟨by simpa using maximal.long, by rw [placed filled], rfl⟩
    · rw [List.length_append, List.length_reverse] at behind
      exact .inr ⟨before, word, after, split, maximal, behind, rfl, rfl⟩
  · rintro (⟨long, rfl, rfl⟩ | ⟨before, word, after, split, maximal, later, same⟩)
    · have filled : run ≠ [] := List.ne_nil_of_length_pos (Nat.lt_of_lt_of_le (by decide) long)
      exact ⟨done, run.reverse, rest, rfl, ⟨by simpa using long, printable', begins, ends⟩, Nat.le_refl _,
        placed filled, rfl⟩
    · exact ⟨before, word, after, split, maximal, by omega, same⟩

/-- What is found from some point on: `done` is what lies before the run so far, and no run reaches from there
into what follows, because it ends in a byte that is not printable. -/
theorem mem_go_iff {base start here a : UInt64} {done run rest : List UInt8} {t : String}
    (begins : ∀ b, done.getLast? = some b → isTextByte b = false) (printable : ∀ b ∈ run, isTextByte b)
    (placed : run ≠ [] → start = base + UInt64.ofNat done.length)
    (next : here = base + UInt64.ofNat (done.length + run.length)) :
    (a, t) ∈ runs.go start run here rest ↔
      RunFrom base (done ++ run.reverse ++ rest) done.length a t := by
  induction rest generalizing start run here done with
  | nil =>
    rw [runs.go, runFrom_iff begins printable placed (by simp)]
    refine (or_iff_left ?_).symm
    rintro ⟨before, word, after, split, maximal, later, _⟩
    have lengths := congrArg List.length split
    simp only [List.length_append, List.length_reverse, List.length_nil] at lengths
    omega
  | cons b bs ih =>
    have following : here + 1 = base + UInt64.ofNat (done.length + run.length + 1) := by
      rw [next, UInt64.ofNat_add (done.length + run.length), ← UInt64.add_assoc]
      rfl
    by_cases text : isTextByte b
    · rw [runs.go, if_pos text, ih begins (List.forall_mem_cons.mpr ⟨text, printable⟩) ?_ following]
      · simp
      · intro _
        cases run with
        | nil => simpa using next
        | cons c run => exact placed (List.cons_ne_nil c run)
    · have blank : isTextByte b = false := by simpa using text
      have moved : (done ++ run.reverse ++ [b]).length = done.length + run.length + 1 := by
        simp [Nat.add_assoc]
      rw [runs.go, if_neg text, List.mem_append, runFrom_iff begins printable placed (by simpa using blank)]
      have later : (a, t) ∈ runs.go start [] (here + 1) bs ↔
          RunFrom base ((done ++ run.reverse ++ [b]) ++ ([] : List UInt8).reverse ++ bs)
            (done ++ run.reverse ++ [b]).length a t :=
        ih (by simpa using blank) (by simp) (by simp) (by rw [following, moved]; rfl)
      rw [later, moved]
      simp

/-- The texts of bytes at an address are the runs of printable bytes that are long enough. -/
theorem mem_runs_iff {base a : UInt64} {bytes : List UInt8} {t : String} :
    (a, t) ∈ runs base bytes ↔ RunFrom base bytes 0 a t := by
  change _ ↔ RunFrom base ([] ++ [].reverse ++ bytes) ([] : List UInt8).length a t
  exact mem_go_iff (by simp) (by simp) (by simp) (by simp)

/-! ## Bytes of texts -/

theorem encode_textByte {b : UInt8} (text : isTextByte b) :
    String.utf8EncodeChar (Char.ofNat b.toNat) = [b] := by
  have ascii : b.toNat ≤ 0x7f := by
    rcases isTextByte_iff.mp text with ⟨_, visible⟩ | rfl | rfl
    · exact (UInt8.le_iff_toNat_le.mp visible).trans (by decide)
    · decide
    · decide
  have code : (Char.ofNat b.toNat).val.toNat = b.toNat := by
    rw [Char.ofNat, dif_pos (.inl (by omega))]
    rfl
  rw [String.utf8EncodeChar, code, if_pos ascii, UInt8.ofNat_toNat]

/-- A text that is read from printable bytes has these bytes. -/
theorem textOf_bytes {run : List UInt8} (printable : ∀ b ∈ run, isTextByte b) :
    (textOf run).toUTF8.data.toList = run := by
  have each : ∀ b ∈ run, String.utf8EncodeChar (Char.ofNat b.toNat) = [b] :=
    fun b member => encode_textByte (printable b member)
  rw [textOf, String.toUTF8, String.toByteArray_ofList, List.utf8Encode, List.data_toByteArray,
    List.toList_toArray, List.flatMap_map, List.flatMap_congr each]
  simp

theorem eq_of_bytes_eq {t t' : String} (same : t.toUTF8.data.toList = t'.toUTF8.data.toList) : t = t' :=
  String.toByteArray_inj.mp (ByteArray.ext (Array.toList_inj.mp same))

theorem eq_textOf_iff {run : List UInt8} (printable : ∀ b ∈ run, isTextByte b) {t : String} :
    t = textOf run ↔ t.toUTF8.data.toList = run := by
  constructor
  · rintro rfl
    exact textOf_bytes printable
  · intro bytes
    exact eq_of_bytes_eq (bytes.trans (textOf_bytes printable).symm)

end Image

/-! ## Sections -/

namespace Section

open Image

/-- Whether the name of a section begins like that of one with texts. -/
def hasTexts (s : Section) : Bool := textSections.any fun t => t.isPrefixOf s.name

/-- The bytes of a section that are in a file. -/
def data (s : Section) (content : ByteArray) : List UInt8 :=
  (content.data.toList.drop s.fileOffset).take (s.stop.toNat - s.start.toNat)

/-- Whether a text stands at an address of a section: its bytes are a run that cannot be extended in the bytes
of the section. -/
def Holds (s : Section) (content : ByteArray) (a : UInt64) (t : String) : Prop :=
  s.hasTexts ∧ ∃ before run after, s.data content = before ++ run ++ after ∧ MaximalRun before run after ∧
    a = s.start + UInt64.ofNat before.length ∧ t.toUTF8.data.toList = run

/-- The texts that are found in a section. -/
def texts (s : Section) (content : ByteArray) : List (UInt64 × String) :=
  if s.hasTexts then runs s.start (s.data content) else []

/-- What is read from a file of a section are its bytes, if it has any there. -/
theorem data_eq (s : Section) (content : ByteArray) :
    s.data content = match s.fileRange? s.start none content.size with
      | some (start, stop) => (content.extract start stop).data.toList
      | none => [] := by
  have size : content.size = content.data.toList.length := rfl
  rw [data, fileRange?]
  by_cases before : s.start < s.stop
  · have available := UInt64.toNat_sub_of_le s.stop s.start (UInt64.le_of_lt before)
    have words := UInt64.lt_iff_toNat_lt.mp before
    have wanted (n : Nat) : Nat.min n n = n := Nat.min_self n
    rw [if_pos (contains_iff.mpr ⟨UInt64.le_refl _, before⟩), UInt64.sub_self, available]
    simp only [Option.map_none, Option.getD_none, wanted, UInt64.toNat_zero, Nat.add_zero]
    by_cases within : s.fileOffset < content.size
    · rw [if_pos (Nat.lt_min.mpr ⟨by omega, within⟩)]
      simp only [ByteArray.data_extract, Array.toList_extract, List.extract_eq_take_drop]
      refine List.take_eq_take_iff.mpr ?_
      change min _ _ = min (min _ _ - _) _
      rw [List.length_drop, size]
      omega
    · rw [if_neg fun both => within (Nat.lt_min.mp both).2,
        List.drop_eq_nil_of_le (Nat.le_of_not_lt within), List.take_nil]
  · have reversed : s.stop.toNat ≤ s.start.toNat := UInt64.le_iff_toNat_le.mp (UInt64.not_lt.mp before)
    have nothing : ¬ s.contains s.start := fun inside => before (contains_iff.mp inside).2
    rw [if_neg nothing, Nat.sub_eq_zero_of_le reversed, List.take_zero]

theorem mem_texts_iff {s : Section} {content : ByteArray} {a : UInt64} {t : String} :
    (a, t) ∈ s.texts content ↔ s.Holds content a t := by
  rw [texts, Holds]
  split
  case isTrue named =>
    rw [mem_runs_iff, RunFrom]
    simp only [named, true_and]
    constructor
    · rintro ⟨before, run, after, split, maximal, _, placed, rfl⟩
      exact ⟨before, run, after, split, maximal, placed, textOf_bytes maximal.printable⟩
    · rintro ⟨before, run, after, split, maximal, placed, bytes⟩
      exact ⟨before, run, after, split, maximal, Nat.zero_le _, placed,
        (eq_textOf_iff maximal.printable).mpr bytes⟩
  case isFalse named => simp [named]

/-- At one address of a section stands at most one text. -/
theorem Holds.unique {s : Section} {content : ByteArray} {a : UInt64} {t t' : String}
    (holds : s.Holds content a t) (holds' : s.Holds content a t') : t = t' := by
  obtain ⟨_, before, run, after, split, maximal, placed, bytes⟩ := holds
  obtain ⟨_, before', run', after', split', maximal', placed', bytes'⟩ := holds'
  have short : (s.data content).length < UInt64.size := by
    have word := UInt64.toNat_lt_size s.stop
    rw [data, List.length_take]
    omega
  have lengths : before.length = before'.length := by
    have same := UInt64.add_right_inj _ |>.mp (placed.symm.trans placed')
    have fits := congrArg List.length split
    have fits' := congrArg List.length split'
    simp only [List.length_append] at fits fits'
    have numbers := congrArg UInt64.toNat same
    rwa [UInt64.toNat_ofNat_of_lt' (by omega), UInt64.toNat_ofNat_of_lt' (by omega)] at numbers
  rw [split', List.append_assoc, List.append_assoc] at split
  obtain ⟨_, rest⟩ := List.append_inj split lengths.symm
  obtain ⟨rfl, _⟩ := printable_unique rest maximal'.printable maximal'.ends maximal.printable maximal.ends
  exact eq_of_bytes_eq (bytes.trans bytes'.symm)

end Section

/-! ## The table of texts -/

namespace Image

/-- The last entry of each address, in the order of these entries. -/
def latest (found : List (UInt64 × String)) : List (UInt64 × String) :=
  found.foldl (fun kept (address, text) => kept.filter (fun (a, _) => a ≠ address) ++ [(address, text)]) []

theorem latest_concat (found : List (UInt64 × String)) (e : UInt64 × String) :
    latest (found ++ [e]) = (latest found).filter (fun (a, _) => a ≠ e.1) ++ [e] := by
  rw [latest, List.foldl_append]
  rfl

theorem mem_latest_append {found more : List (UInt64 × String)} {a : UInt64} {t : String} :
    (a, t) ∈ latest (found ++ more) ↔
      (a, t) ∈ latest more ∨ (a, t) ∈ latest found ∧ ∀ t', (a, t') ∉ more := by
  induction more using List.reverseRecOn with
  | nil => simp [latest]
  | append_singleton more e ih =>
    rw [← List.append_assoc, latest_concat, latest_concat, List.mem_append, List.mem_append,
      List.mem_filter, List.mem_filter, ih]
    obtain ⟨b, u⟩ := e
    by_cases same : a = b
    · subst same
      simp only [List.mem_singleton, Prod.mk.injEq, true_and, decide_not, decide_true, Bool.not_true,
        Bool.false_eq_true, and_false, false_or, List.mem_append]
      refine (or_iff_left ?_).symm
      rintro ⟨_, every⟩
      exact every u (.inr rfl)
    · simp [same]

theorem latest_nodup (found : List (UInt64 × String)) : ((latest found).map (·.1)).Nodup := by
  induction found using List.reverseRecOn with
  | nil => exact List.nodup_nil
  | append_singleton found e ih =>
    rw [latest_concat, List.map_append, List.map_singleton, ← List.concat_eq_append]
    refine List.Nodup.concat ?_ (ih.sublist (List.filter_sublist.map _))
    simp

/-- Each address that has an entry has a last one. -/
theorem exists_mem_latest {found : List (UInt64 × String)} {a : UInt64} {t : String}
    (listed : (a, t) ∈ found) : ∃ t', (a, t') ∈ latest found := by
  induction found using List.reverseRecOn with
  | nil => cases listed
  | append_singleton found e ih =>
    rw [latest_concat]
    by_cases same : a = e.1
    · exact ⟨e.2, List.mem_append_right _ (by simp [same])⟩
    · have earlier : (a, t) ∈ found := by
        refine (List.mem_append.mp listed).resolve_right fun last => same ?_
        rw [← List.mem_singleton.mp last]
      obtain ⟨t', kept⟩ := ih earlier
      exact ⟨t', List.mem_append_left _ (List.mem_filter.mpr ⟨kept, by simpa using same⟩)⟩

/-- Entries of one address that say the same have that as their last word. -/
theorem mem_latest_of_unique {found : List (UInt64 × String)}
    (unique : ∀ a t t', (a, t) ∈ found → (a, t') ∈ found → t = t') (a : UInt64) (t : String) :
    (a, t) ∈ latest found ↔ (a, t) ∈ found := by
  induction found using List.reverseRecOn with
  | nil => simp [latest]
  | append_singleton found e ih =>
    obtain ⟨b, u⟩ := e
    have earlier := ih fun a t t' first second =>
      unique a t t' (List.mem_append_left _ first) (List.mem_append_left _ second)
    rw [latest_concat, List.mem_append, List.mem_append, List.mem_filter, earlier]
    by_cases same : a = b
    · subst same
      -- What is listed before the last entry of its address says the same as that one.
      have last (member : (a, t) ∈ found) : t = u :=
        unique a t u (List.mem_append_left _ member) (List.mem_append_right _ (List.mem_singleton_self _))
      simpa using last
    · simp [same]

theorem strings_eq (i : Image) (content : ByteArray) :
    i.strings content = latest (i.sections.flatMap fun s => s.texts content) := by
  have each (s : Section) : s.texts content = if s.hasTexts then
      match s.fileRange? s.start none content.size with
      | some (start, stop) => runs s.start (content.extract start stop).data.toList
      | none => []
    else [] := by
    rw [Section.texts, s.data_eq]
    cases s.fileRange? s.start none content.size with
    | none => rfl
    | some range => rfl
  rw [funext each]
  rfl

/-- Of the sections in which a text stands at an address, the last one has it in the table. -/
theorem mem_latest_texts {sections : List Section} {content : ByteArray} {a : UInt64} {t : String} :
    (a, t) ∈ latest (sections.flatMap fun s => s.texts content) ↔
      ∃ before s after, sections = before ++ s :: after ∧ s.Holds content a t ∧
        ∀ s' ∈ after, ∀ t', ¬ s'.Holds content a t' := by
  induction sections using List.reverseRecOn with
  | nil => simp [latest]
  | append_singleton sections s ih =>
    have single : (a, t) ∈ latest (s.texts content) ↔ s.Holds content a t := by
      rw [mem_latest_of_unique, Section.mem_texts_iff]
      intro a t t' first second
      exact (Section.mem_texts_iff.mp first).unique (Section.mem_texts_iff.mp second)
    rw [List.flatMap_append, List.flatMap_singleton, mem_latest_append, single, ih]
    simp only [Section.mem_texts_iff]
    constructor
    · rintro (holds | ⟨⟨before, s', after, rfl, holds, last⟩, absent⟩)
      · exact ⟨sections, s, [], rfl, holds, by simp⟩
      · refine ⟨before, s', after ++ [s], by simp, holds, List.forall_mem_append.mpr ⟨last, ?_⟩⟩
        exact List.forall_mem_singleton.mpr absent
    · rintro ⟨before, s', after, split, holds, last⟩
      rcases List.eq_nil_or_concat after with rfl | ⟨after, s'', rfl⟩
      · obtain ⟨_, same⟩ := List.append_inj' split rfl
        obtain rfl := List.singleton_inj.mp same
        exact .inl holds
      · rw [List.concat_eq_append] at split last
        rw [← List.cons_append, ← List.append_assoc] at split
        obtain ⟨rfl, same⟩ := List.append_inj' split rfl
        obtain rfl := List.singleton_inj.mp same
        obtain ⟨last, absent⟩ := List.forall_mem_append.mp last
        exact .inr ⟨⟨before, s', after, rfl, holds, last⟩, List.forall_mem_singleton.mp absent⟩

/-- Whether sections that have texts at one address have the same one there. -/
def TextsAgree (i : Image) (content : ByteArray) : Prop :=
  ∀ s ∈ i.sections, ∀ s' ∈ i.sections, ∀ a t t', s.Holds content a t → s'.Holds content a t' → t = t'

/-- Which texts of the sections of an image are kept. -/
structure KeepsTexts (i : Image) (content : ByteArray) : Prop where
  /-- A text is kept if it stands in a section and no later one has a text at its address. -/
  kept_iff : ∀ a t, (a, t) ∈ i.strings content ↔
    ∃ before s after, i.sections = before ++ s :: after ∧ s.Holds content a t ∧
      ∀ s' ∈ after, ∀ t', ¬ s'.Holds content a t'
  /-- Each address comes once. -/
  once : ((i.strings content).map (·.1)).Nodup
  /-- At the address of each text one is kept. -/
  covers : ∀ s ∈ i.sections, ∀ a t, s.Holds content a t → ∃ t', (a, t') ∈ i.strings content
  /-- No text is lost exactly if sections agree on those at one address. -/
  lossless_iff : (∀ s ∈ i.sections, ∀ a t, s.Holds content a t → (a, t) ∈ i.strings content) ↔
    i.TextsAgree content

theorem mem_strings_iff {i : Image} {content : ByteArray} {a : UInt64} {t : String} :
    (a, t) ∈ i.strings content ↔ ∃ before s after, i.sections = before ++ s :: after ∧
      s.Holds content a t ∧ ∀ s' ∈ after, ∀ t', ¬ s'.Holds content a t' := by
  rw [strings_eq, mem_latest_texts]

theorem strings_nodup (i : Image) (content : ByteArray) : ((i.strings content).map (·.1)).Nodup := by
  rw [strings_eq]
  exact latest_nodup _

theorem strings_unique {i : Image} {content : ByteArray} {a : UInt64} {t t' : String}
    (first : (a, t) ∈ i.strings content) (second : (a, t') ∈ i.strings content) : t = t' :=
  congrArg Prod.snd (List.inj_on_of_nodup_map (i.strings_nodup content) first second rfl)

/-- A text of a section has one at its address: its own, or that of a later section. -/
theorem exists_mem_strings {i : Image} {content : ByteArray} {s : Section} (listed : s ∈ i.sections)
    {a : UInt64} {t : String} (holds : s.Holds content a t) : ∃ t', (a, t') ∈ i.strings content := by
  rw [strings_eq]
  exact exists_mem_latest (List.mem_flatMap.mpr ⟨s, listed, Section.mem_texts_iff.mpr holds⟩)

theorem strings_keepsTexts (i : Image) (content : ByteArray) : i.KeepsTexts content where
  kept_iff _ _ := mem_strings_iff
  once := i.strings_nodup content
  covers _ listed _ _ holds := exists_mem_strings listed holds
  lossless_iff := by
    constructor
    · intro every s listed s' listed' a t t' holds holds'
      exact strings_unique (every s listed a t holds) (every s' listed' a t' holds')
    · intro agree s listed a t holds
      obtain ⟨t', kept⟩ := exists_mem_strings listed holds
      obtain ⟨before, s', after, split, holds', _⟩ := mem_strings_iff.mp kept
      have listed' : s' ∈ i.sections := by simp [split]
      rwa [agree s listed s' listed' a t t' holds holds']

end Image

end TechniqueScan.Binary
