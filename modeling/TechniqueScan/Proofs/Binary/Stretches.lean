import Mathlib.Data.List.Pairwise
import TechniqueScan.Proofs.Binary.Texts

/-!
The texts of an image by the addresses of their bytes. A section has a byte at each of its addresses that the
file reaches, and a text of it is a stretch of printable bytes that is long enough and lies in no longer one.
Where no two sections with texts have an address in common, exactly these texts are found. So no printable
bytes that are long enough are missed, up to the last byte of a section, and no text reaches from one section
into another.
-/

namespace TechniqueScan.Binary

/-- A visible character of ASCII, a blank or a tab. -/
def Printable (b : UInt8) : Prop := (0x21 ≤ b ∧ b ≤ 0x7e) ∨ b = 0x20 ∨ b = 9

namespace Section

variable {s : Section} {content : ByteArray}

/-- The byte at an address, if the section and the file reach there. -/
def byteAt? (s : Section) (content : ByteArray) (address : Nat) : Option UInt8 :=
  if s.start.toNat ≤ address ∧ address < s.stop.toNat then
    content.data[s.fileOffset + (address - s.start.toNat)]?
  else none

/-- Whether the bytes from an address up to another one are there and printable. -/
def Prints (s : Section) (content : ByteArray) (first stop : Nat) : Prop :=
  ∀ address, first ≤ address → address < stop → ∃ b, s.byteAt? content address = some b ∧ Printable b

/-- Printable bytes of a section that cannot be extended on either side. -/
structure Stretch (s : Section) (content : ByteArray) (first stop : Nat) : Prop where
  prints : s.Prints content first stop
  maximal : ∀ first' stop', first' ≤ first → stop ≤ stop' → s.Prints content first' stop' →
    first' = first ∧ stop' = stop

/-- Whether the bytes of a text, at least four, stand at an address and are a stretch there. -/
structure StandsAt (s : Section) (content : ByteArray) (a : UInt64) (t : String) : Prop where
  long : 4 ≤ t.toUTF8.size
  reads : ∀ k < t.toUTF8.size, s.byteAt? content (a.toNat + k) = t.toUTF8.data[k]?
  stretch : s.Stretch content a.toNat (a.toNat + t.toUTF8.size)

/-! ## Bytes by address -/

theorem inside_of_byteAt? {address : Nat} {b : UInt8} (there : s.byteAt? content address = some b) :
    s.start.toNat ≤ address ∧ address < s.stop.toNat :=
  (Option.ite_none_right_eq_some.mp there).1

theorem byteAt?_add (s : Section) (content : ByteArray) (k : Nat) :
    s.byteAt? content (s.start.toNat + k) = (s.data content)[k]? := by
  rw [byteAt?, data, List.getElem?_take, List.getElem?_drop, Array.getElem?_toList, Nat.add_sub_cancel_left]
  by_cases within : k < s.stop.toNat - s.start.toNat
  · rw [if_pos within, if_pos (by omega)]
  · rw [if_neg within, if_neg (by omega)]

section Split

variable {before run after : List UInt8} (split : s.data content = before ++ run ++ after)

include split

theorem byteAt?_run {k : Nat} (within : k < run.length) :
    s.byteAt? content (s.start.toNat + before.length + k) = run[k]? := by
  rw [Nat.add_assoc, byteAt?_add, split, List.append_assoc, List.getElem?_append_right (Nat.le_add_right _ _),
    Nat.add_sub_cancel_left, List.getElem?_append_left within]

theorem byteAt?_after : s.byteAt? content (s.start.toNat + before.length + run.length) = after.head? := by
  rw [Nat.add_assoc, byteAt?_add, split, ← List.length_append, List.getElem?_append_right (Nat.le_refl _),
    Nat.sub_self, List.head?_eq_getElem?]

theorem getLast?_before {b : UInt8} : before.getLast? = some b ↔
    ∃ address, address + 1 = s.start.toNat + before.length ∧ s.byteAt? content address = some b := by
  have earlier {k : Nat} (within : k < before.length) :
      s.byteAt? content (s.start.toNat + k) = before[k]? := by
    rw [byteAt?_add, split, List.append_assoc, List.getElem?_append_left within]
  rw [List.getLast?_eq_getElem?]
  constructor
  · intro last
    obtain ⟨within, _⟩ := List.getElem?_eq_some_iff.mp last
    exact ⟨s.start.toNat + (before.length - 1), by omega, (earlier within).trans last⟩
  · rintro ⟨address, next, there⟩
    obtain ⟨k, rfl⟩ := Nat.exists_eq_add_of_le (inside_of_byteAt? there).1
    obtain rfl : k = before.length - 1 := by omega
    rwa [earlier (by omega)] at there

theorem prints_run_iff : s.Prints content (s.start.toNat + before.length)
    (s.start.toNat + before.length + run.length) ↔ ∀ b ∈ run, Image.isTextByte b := by
  constructor
  · intro prints b member
    obtain ⟨k, within, rfl⟩ := List.getElem_of_mem member
    obtain ⟨b, there, printable⟩ := prints (s.start.toNat + before.length + k) (Nat.le_add_right _ _) (by omega)
    rw [byteAt?_run split within, List.getElem?_eq_getElem within, Option.some.injEq] at there
    rw [there]
    exact Image.isTextByte_iff.mpr printable
  · intro printable address notBefore within
    obtain ⟨k, rfl⟩ := Nat.exists_eq_add_of_le notBefore
    have within' : k < run.length := by omega
    refine ⟨run[k], ?_, Image.isTextByte_iff.mp (printable _ (List.getElem_mem within'))⟩
    rw [byteAt?_run split within', List.getElem?_eq_getElem within']

end Split

/-! ## Stretches -/

theorem prints_single {address : Nat} {b : UInt8} (there : s.byteAt? content address = some b)
    (printable : Printable b) : s.Prints content address (address + 1) := by
  intro x notBefore within
  obtain rfl : x = address := by omega
  exact ⟨b, there, printable⟩

theorem Prints.append {first middle stop : Nat} (front : s.Prints content first middle)
    (back : s.Prints content middle stop) : s.Prints content first stop := by
  intro address notBefore within
  rcases Nat.lt_or_ge address middle with before | behind
  · exact front address notBefore before
  · exact back address behind within

namespace Prints

variable {first stop : Nat} (prints : s.Prints content first stop)

include prints

/-- Printable bytes lie in their section. -/
theorem inside (filled : first < stop) : s.start.toNat ≤ first ∧ stop ≤ s.stop.toNat := by
  obtain ⟨_, atFirst, _⟩ := prints first (Nat.le_refl _) filled
  obtain ⟨_, atLast, _⟩ := prints (stop - 1) (by omega) (by omega)
  have beforeStop := (inside_of_byteAt? atLast).2
  exact ⟨(inside_of_byteAt? atFirst).1, by omega⟩

/-- Printable bytes cannot be extended exactly if neither of their neighbours is printable. -/
theorem stretch_iff (ascends : first ≤ stop) : s.Stretch content first stop ↔
    (∀ address b, address + 1 = first → s.byteAt? content address = some b → ¬ Printable b) ∧
      ∀ b, s.byteAt? content stop = some b → ¬ Printable b := by
  constructor
  · rintro ⟨_, maximal⟩
    constructor
    · rintro address b rfl there printable
      have longer := (prints_single there printable).append prints
      exact Nat.ne_add_one address (maximal address stop (Nat.le_succ _) (Nat.le_refl _) longer).1
    · intro b there printable
      have longer := prints.append (prints_single there printable)
      exact Nat.succ_ne_self stop (maximal first (stop + 1) (Nat.le_refl _) (Nat.le_succ _) longer).2
  · rintro ⟨begins, ends⟩
    refine ⟨prints, fun first' stop' earlier later prints' => ⟨?_, ?_⟩⟩
    · by_contra other
      obtain ⟨b, there, printable⟩ := prints' (first - 1) (by omega) (by omega)
      exact begins (first - 1) b (by omega) there printable
    · by_contra other
      obtain ⟨b, there, printable⟩ := prints' stop (by omega) (by omega)
      exact ends b there printable

/-- Printable bytes are part of ones that cannot be extended. -/
theorem exists_stretch (filled : first < stop) :
    ∃ first' stop', first' ≤ first ∧ stop ≤ stop' ∧ s.Stretch content first' stop' := by
  -- Whatever extends them takes some of the addresses that the section has on either side.
  induction room : first + (s.stop.toNat - stop) using Nat.strong_induction_on generalizing first stop with
  | _ room ih =>
    by_cases maximal : ∀ first' stop', first' ≤ first → stop ≤ stop' → s.Prints content first' stop' →
        first' = first ∧ stop' = stop
    · exact ⟨first, stop, Nat.le_refl _, Nat.le_refl _, prints, maximal⟩
    · push Not at maximal
      obtain ⟨first', stop', earlier, later, prints', longer⟩ := maximal
      have within := (prints'.inside (by omega)).2
      obtain ⟨first'', stop'', earlier', later', stretch⟩ :=
        ih (first' + (s.stop.toNat - stop')) (by omega) prints' (by omega) rfl
      exact ⟨first'', stop'', earlier'.trans earlier, later.trans later', stretch⟩

end Prints

/-- In the bytes of a section, a maximal run is a stretch that is long enough. -/
theorem stretch_iff_maximalRun {before run after : List UInt8}
    (split : s.data content = before ++ run ++ after) (long : 4 ≤ run.length) :
    s.Stretch content (s.start.toNat + before.length) (s.start.toNat + before.length + run.length) ↔
      Image.MaximalRun before run after := by
  have dull {b : UInt8} : Image.isTextByte b = false ↔ ¬ Printable b := by
    rw [← Bool.not_eq_true, Image.isTextByte_iff, Printable]
  constructor
  · intro stretch
    obtain ⟨begins, ends⟩ := (stretch.prints.stretch_iff (Nat.le_add_right _ _)).mp stretch
    refine ⟨long, (prints_run_iff split).mp stretch.prints, fun b last => dull.mpr ?_, fun b next => dull.mpr ?_⟩
    · obtain ⟨address, next, there⟩ := (getLast?_before split).mp last
      exact begins address b next there
    · exact ends b ((byteAt?_after split).trans next)
  · intro maximal
    refine (((prints_run_iff split).mpr maximal.printable).stretch_iff (Nat.le_add_right _ _)).mpr ⟨?_, ?_⟩
    · intro address b next there
      exact dull.mp (maximal.begins b ((getLast?_before split).mpr ⟨address, next, there⟩))
    · intro b there
      exact dull.mp (maximal.ends b ((byteAt?_after split).symm.trans there))

/-- A stretch that is long enough is a maximal run in the bytes of its section. -/
theorem Stretch.exists_split {first stop : Nat} (stretch : s.Stretch content first stop)
    (long : first + 4 ≤ stop) : ∃ before run after, s.data content = before ++ run ++ after ∧
      Image.MaximalRun before run after ∧ first = s.start.toNat + before.length ∧ stop = first + run.length := by
  obtain ⟨k, rfl⟩ := Nat.exists_eq_add_of_le (stretch.prints.inside (by omega)).1
  obtain ⟨n, rfl⟩ := Nat.exists_eq_add_of_le (Nat.le_of_add_right_le long)
  have reaches : k + n ≤ (s.data content).length := by
    obtain ⟨b, atLast, _⟩ := stretch.prints (s.start.toNat + (k + n - 1)) (by omega) (by omega)
    rw [byteAt?_add] at atLast
    have within := (List.getElem?_eq_some_iff.mp atLast).1
    omega
  have split : s.data content =
      (s.data content).take k ++ ((s.data content).drop k).take n ++ (s.data content).drop (k + n) := by
    rw [List.append_assoc, ← List.drop_drop, List.take_append_drop, List.take_append_drop]
  have front : ((s.data content).take k).length = k := by rw [List.length_take]; omega
  have middle : (((s.data content).drop k).take n).length = n := by
    rw [List.length_take, List.length_drop]
    omega
  refine ⟨_, _, _, split, ?_, by rw [front], by rw [middle]⟩
  rw [← stretch_iff_maximalRun split (by omega), front, middle]
  exact stretch

/-- The address of printable bytes is a word. -/
theorem toNat_place {k n : Nat} (prints : s.Prints content (s.start.toNat + k) (s.start.toNat + k + n))
    (filled : 0 < n) : (s.start + UInt64.ofNat k).toNat = s.start.toNat + k := by
  have within := (prints.inside (Nat.lt_add_of_pos_right filled)).2
  have word : s.stop.toNat < 2 ^ 64 := UInt64.toNat_lt s.stop
  rw [UInt64.toNat_add, UInt64.toNat_ofNat_of_lt' (show k < 2 ^ 64 by omega), Nat.mod_eq_of_lt (by omega)]

theorem standsAt_iff {a : UInt64} {t : String} : s.StandsAt content a t ↔
    ∃ before run after, s.data content = before ++ run ++ after ∧ Image.MaximalRun before run after ∧
      a = s.start + UInt64.ofNat before.length ∧ t.toUTF8.data.toList = run := by
  constructor
  · rintro ⟨long, reads, stretch⟩
    obtain ⟨before, run, after, split, maximal, place, size⟩ := stretch.exists_split (by omega)
    refine ⟨before, run, after, split, maximal, ?_, List.ext_getElem? fun k => ?_⟩
    · calc a = UInt64.ofNat a.toNat := UInt64.ofNat_toNat.symm
        _ = s.start + UInt64.ofNat before.length := by rw [place, UInt64.ofNat_add, UInt64.ofNat_toNat]
    · have length : t.toUTF8.data.toList.length = run.length := Nat.add_left_cancel size
      by_cases within : k < run.length
      · rw [Array.getElem?_toList, ← reads k (by omega), place, byteAt?_run split within]
      · rw [List.getElem?_eq_none (by omega), List.getElem?_eq_none (by omega)]
  · rintro ⟨before, run, after, split, maximal, rfl, bytes⟩
    have size : t.toUTF8.size = run.length := congrArg List.length bytes
    have stretch := (stretch_iff_maximalRun split maximal.long).mpr maximal
    have place := toNat_place stretch.prints (List.length_pos_iff.mpr maximal.filled)
    refine ⟨size ▸ maximal.long, fun k within => ?_, by rwa [place, size]⟩
    rw [place, byteAt?_run split (size ▸ within), ← Array.getElem?_toList, bytes]

/-- A text stands at an address of a section exactly if it is a stretch there. -/
theorem holds_iff {a : UInt64} {t : String} : s.Holds content a t ↔ s.hasTexts ∧ s.StandsAt content a t :=
  and_congr_right fun _ => standsAt_iff.symm

/-- A text lies in its section from the first byte to the last. -/
theorem StandsAt.within {a address : UInt64} {t : String} (stands : s.StandsAt content a t)
    (begun : a ≤ address) (before : address.toNat < a.toNat + t.toUTF8.size) : s.contains address := by
  obtain ⟨b, there, _⟩ := stands.stretch.prints address.toNat (UInt64.le_iff_toNat_le.mp begun) before
  rw [contains_iff, UInt64.le_iff_toNat_le, UInt64.lt_iff_toNat_lt]
  exact inside_of_byteAt? there

theorem StandsAt.first {a : UInt64} {t : String} (stands : s.StandsAt content a t) : s.contains a :=
  stands.within (UInt64.le_refl a) (Nat.lt_add_of_pos_right (Nat.lt_of_lt_of_le (by decide) stands.long))

/-- The bytes of a stretch that is long enough are those of a text. -/
theorem Stretch.exists_text {first stop : Nat} (stretch : s.Stretch content first stop)
    (long : first + 4 ≤ stop) : ∃ a t, s.StandsAt content a t ∧ a.toNat = first ∧
      a.toNat + t.toUTF8.size = stop := by
  obtain ⟨before, run, after, split, maximal, rfl, rfl⟩ := stretch.exists_split long
  have bytes := Image.textOf_bytes maximal.printable
  have place := toNat_place stretch.prints (List.length_pos_iff.mpr maximal.filled)
  have size : (Image.textOf run).toUTF8.size = run.length := congrArg List.length bytes
  exact ⟨_, _, standsAt_iff.mpr ⟨before, run, after, split, maximal, rfl, bytes⟩, place, by rw [place, size]⟩

end Section

/-! ## Sections that have no address in common -/

namespace Image

/-- Whether no two sections with texts have an address in common. -/
def TextsApart (i : Image) : Prop :=
  ∀ s ∈ i.sections, s.hasTexts → ∀ s' ∈ i.sections, s'.hasTexts → s ≠ s' →
    ∀ address, s.contains address → ¬ s'.contains address

/-- Which texts an image has: the stretches of its sections. -/
structure FindsStretches (i : Image) (content : ByteArray) : Prop where
  found_iff : ∀ a t, (a, t) ∈ i.strings content ↔ ∃ s ∈ i.sections, s.hasTexts ∧ s.StandsAt content a t
  /-- Printable bytes that are enough for a text lie in one. -/
  complete : ∀ s ∈ i.sections, s.hasTexts → ∀ first stop, s.Prints content first stop → first + 4 ≤ stop →
    ∃ a t, (a, t) ∈ i.strings content ∧ s.StandsAt content a t ∧
      a.toNat ≤ first ∧ stop ≤ a.toNat + t.toUTF8.size
  /-- If the bytes of the section end with them, so does the text. -/
  final : ∀ s ∈ i.sections, s.hasTexts → ∀ first stop, s.Prints content first stop → first + 4 ≤ stop →
    s.byteAt? content stop = none → ∃ a t, (a, t) ∈ i.strings content ∧ s.StandsAt content a t ∧
      a.toNat ≤ first ∧ a.toNat + t.toUTF8.size = stop
  /-- A text with a byte in some section stands there as a whole. -/
  uncrossed : ∀ a t, (a, t) ∈ i.strings content → ∀ s ∈ i.sections, s.hasTexts →
    ∀ address, s.contains address → a ≤ address → address.toNat < a.toNat + t.toUTF8.size →
      s.StandsAt content a t

/-- Sections of which each ends before the other one begins have no address in common. -/
theorem textsApart_of_pairwise {i : Image} (ordered : (i.sections.filter (·.hasTexts)).Pairwise fun s s' =>
    s.stop ≤ s'.start ∨ s'.stop ≤ s.start) : i.TextsApart := by
  intro s listed texts s' listed' texts' other address inside inside'
  have symmetric : Std.Symm fun s s' : Section => s.stop ≤ s'.start ∨ s'.stop ≤ s.start :=
    ⟨fun _ _ => Or.symm⟩
  have order := ordered.forall (List.mem_filter.mpr ⟨listed, texts⟩) (List.mem_filter.mpr ⟨listed', texts'⟩) other
  obtain ⟨notBefore, before⟩ := Section.contains_iff.mp inside
  obtain ⟨notBefore', before'⟩ := Section.contains_iff.mp inside'
  simp only [UInt64.le_iff_toNat_le, UInt64.lt_iff_toNat_lt] at order notBefore before notBefore' before'
  omega

/-- A section with texts is determined by any of its addresses. -/
theorem TextsApart.eq_of_shared {i : Image} (apart : i.TextsApart) {s s' : Section} (listed : s ∈ i.sections)
    (texts : s.hasTexts) (listed' : s' ∈ i.sections) (texts' : s'.hasTexts) {address : UInt64}
    (inside : s.contains address) (inside' : s'.contains address) : s = s' := by
  by_contra other
  exact apart s listed texts s' listed' texts' other address inside inside'

theorem TextsApart.agree {i : Image} (apart : i.TextsApart) (content : ByteArray) : i.TextsAgree content := by
  intro s listed s' listed' a t t' holds holds'
  obtain ⟨texts, stands⟩ := Section.holds_iff.mp holds
  obtain ⟨texts', stands'⟩ := Section.holds_iff.mp holds'
  obtain rfl := apart.eq_of_shared listed texts listed' texts' stands.first stands'.first
  exact holds.unique holds'

section Apart

variable {i : Image} {content : ByteArray} (apart : i.TextsApart)

include apart

/-- Exactly the texts that stand in sections are found: no other one has the address of any of them. -/
theorem mem_strings_iff_standsAt {a : UInt64} {t : String} :
    (a, t) ∈ i.strings content ↔ ∃ s ∈ i.sections, s.hasTexts ∧ s.StandsAt content a t := by
  simp only [← Section.holds_iff]
  constructor
  · intro kept
    obtain ⟨before, s, after, split, holds, _⟩ := mem_strings_iff.mp kept
    exact ⟨s, by simp [split], holds⟩
  · rintro ⟨s, listed, holds⟩
    exact (i.strings_keepsTexts content).lossless_iff.mpr (apart.agree content) s listed a t holds

/-- Printable bytes that are enough for a text lie in one. -/
theorem exists_text_of_prints {s : Section} (listed : s ∈ i.sections) (texts : s.hasTexts) {first stop : Nat}
    (prints : s.Prints content first stop) (long : first + 4 ≤ stop) :
    ∃ a t, (a, t) ∈ i.strings content ∧ s.StandsAt content a t ∧
      a.toNat ≤ first ∧ stop ≤ a.toNat + t.toUTF8.size := by
  obtain ⟨first', stop', earlier, later, stretch⟩ := prints.exists_stretch (by omega)
  obtain ⟨a, t, stands, rfl, rfl⟩ := stretch.exists_text (by omega)
  exact ⟨a, t, (mem_strings_iff_standsAt apart).mpr ⟨s, listed, texts, stands⟩, stands, earlier, later⟩

theorem standsAt_of_shared {a address : UInt64} {t : String} (found : (a, t) ∈ i.strings content)
    {s : Section} (listed : s ∈ i.sections) (texts : s.hasTexts) (shared : s.contains address)
    (begun : a ≤ address) (before : address.toNat < a.toNat + t.toUTF8.size) : s.StandsAt content a t := by
  obtain ⟨s', listed', texts', stands⟩ := (mem_strings_iff_standsAt apart).mp found
  obtain rfl := apart.eq_of_shared listed' texts' listed texts (stands.within begun before) shared
  exact stands

end Apart

/-- Where no two sections with texts have an address in common, exactly their stretches are found. -/
theorem strings_findsStretches {i : Image} (apart : i.TextsApart) (content : ByteArray) :
    i.FindsStretches content where
  found_iff _ _ := mem_strings_iff_standsAt apart
  complete _ listed texts _ _ prints long := exists_text_of_prints apart listed texts prints long
  final s listed texts first stop prints long ended := by
    obtain ⟨a, t, found, stands, earlier, later⟩ := exists_text_of_prints apart listed texts prints long
    refine ⟨a, t, found, stands, earlier, Nat.le_antisymm ?_ later⟩
    -- A longer text would have a byte at the address behind the last one.
    by_contra longer
    obtain ⟨b, there, _⟩ := stands.stretch.prints stop (by omega) (by omega)
    rw [ended] at there
    cases there
  uncrossed _ _ found _ listed texts _ shared begun before :=
    standsAt_of_shared apart found listed texts shared begun before

/-- Sections with texts that follow each other without a gap, one that the file cuts, and code that overlaps. -/
def terrace : Image where
  sections := [⟨".rodata", 16, 24, 0, false⟩, ⟨"__cstring", 24, 32, 8, false⟩,
    ⟨".text", 16, 64, 0, true⟩, ⟨"__const", 40, 64, 16, false⟩]

def terraceContent : ByteArray := "cat\x00opendoor\x00abc\tend".toUTF8

theorem terrace_findsStretches : terrace.TextsApart ∧ terrace.FindsStretches terraceContent ∧
    terrace.strings terraceContent = [(20, "open"), (24, "door"), (40, "\tend")] := by
  have apart : terrace.TextsApart := textsApart_of_pairwise (by decide +kernel)
  exact ⟨apart, strings_findsStretches apart terraceContent, by decide +kernel⟩

end Image

end TechniqueScan.Binary
