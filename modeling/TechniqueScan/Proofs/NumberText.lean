import Mathlib.Data.List.TakeWhile
import Mathlib.Data.Nat.Digits.Defs
import TechniqueScan.NumberText
import TechniqueScan.Proofs.Except

/-!
Numbers given as texts. A text is read as a word exactly if, blanks around it aside, it is a numeral and
its number fits; a numeral whose number does not fit is refused as too large, and so no digit is lost.
-/

namespace TechniqueScan

namespace Text

/-- Blanks around characters that are not blank are trimmed, and nothing else. -/
theorem trimChars_padded {lead core trail : List Char} (leads : ∀ c ∈ lead, isBlank c)
    (trails : ∀ c ∈ trail, isBlank c) (solid : ∀ c ∈ core, isBlank c = false) :
    trimChars (lead ++ core ++ trail) = core := by
  have stops {cs : List Char} (solid : ∀ c ∈ cs, isBlank c = false) : cs.dropWhile isBlank = cs := by
    cases cs with
    | nil => rfl
    | cons c rest => rw [List.dropWhile_cons_of_neg (by simp [solid c])]
  have front : (lead ++ core ++ trail).dropWhile isBlank = (core ++ trail).dropWhile isBlank := by
    rw [List.append_assoc, List.dropWhile_append_of_pos leads]
  rw [trimChars, front]
  cases core with
  | nil =>
    have nothing : trail.dropWhile isBlank = [] := List.dropWhile_eq_nil_iff.mpr trails
    rw [List.nil_append, nothing]
    rfl
  | cons c rest =>
    have kept : (c :: rest ++ trail).dropWhile isBlank = c :: rest ++ trail := by
      rw [List.cons_append, List.dropWhile_cons_of_neg (by simp [solid c])]
    have back : ∀ c ∈ trail.reverse, isBlank c := fun c member => trails c (List.mem_reverse.mp member)
    rw [kept, List.reverse_append, List.dropWhile_append_of_pos back,
      stops fun c member => solid c (List.mem_reverse.mp member), List.reverse_reverse]

/-- What is trimmed off a text is blank. -/
theorem exists_padding (cs : List Char) :
    ∃ lead trail, cs = lead ++ trimChars cs ++ trail ∧ ∀ c ∈ lead ++ trail, isBlank c := by
  have blank {cs : List Char} : ∀ c ∈ cs.takeWhile isBlank, isBlank c :=
    fun c member => List.mem_takeWhile_imp member
  refine ⟨cs.takeWhile isBlank, ((cs.dropWhile isBlank).reverse.takeWhile isBlank).reverse, ?_, ?_⟩
  · rw [trimChars, List.append_assoc, ← List.reverse_append, List.takeWhile_append_dropWhile,
      List.reverse_reverse, List.takeWhile_append_dropWhile]
  · intro c member
    rcases List.mem_append.mp member with member | member
    · exact blank c member
    · exact blank c (List.mem_reverse.mp member)

end Text

namespace NumberText

open Document

/-! ## Numerals -/

/-- Whether a character is the digit of a value, in either case of letters. -/
def IsDigit (radix : Nat) (c : Char) (d : Nat) : Prop :=
  d < radix ∧ (c = d.digitChar ∨ c = d.digitChar.toUpper)

/-- Whether characters are digits of a number, the most significant one first. -/
def Denotes (radix : Nat) (cs : List Char) (n : Nat) : Prop :=
  cs ≠ [] ∧ ∃ ds, List.Forall₂ (IsDigit radix) cs ds ∧ n = Nat.ofDigits radix ds.reverse

/-- Whether characters denote a number, one plus in front of them aside. -/
def DenotesSigned (radix : Nat) (cs : List Char) (n : Nat) : Prop :=
  Denotes radix cs n ∨ ∃ digits, cs = '+' :: digits ∧ Denotes radix digits n

/-- The numerals of a number. -/
inductive Numeral : List Char → Nat → Prop
  | decimal {cs : List Char} {n : Nat} : DenotesSigned 10 cs n → Numeral cs n
  | hexadecimal {x : Char} {cs : List Char} {n : Nat} : x = 'x' ∨ x = 'X' → DenotesSigned 16 cs n →
      Numeral ('0' :: x :: cs) n

/-- Whether a text is a numeral of a number, blanks around it aside. -/
def Spells (s : String) (n : Nat) : Prop :=
  ∃ lead core trail, s.toList = lead ++ core ++ trail ∧ (∀ c ∈ lead ++ trail, Text.isBlank c) ∧
    Numeral core n

/-! ## Digits -/

theorem isDigit_solid {radix : Nat} (known : radix = 10 ∨ radix = 16) {c : Char} {d : Nat}
    (digit : IsDigit radix c d) : Text.isBlank c = false ∧ c ≠ '+' := by
  have plain : ∀ d < 16, Text.isBlank d.digitChar = false ∧ d.digitChar ≠ '+' := by decide
  have capital : ∀ d < 16, Text.isBlank d.digitChar.toUpper = false ∧ d.digitChar.toUpper ≠ '+' := by decide
  obtain ⟨small, rfl | rfl⟩ := digit
  · exact plain d (by omega)
  · exact capital d (by omega)

theorem digitIn?_of_isDigit {radix : Nat} (known : radix = 10 ∨ radix = 16) {c : Char} {d : Nat}
    (digit : IsDigit radix c d) : digitIn? radix c = some d := by
  have decimal : ∀ d < 10,
      digitIn? 10 d.digitChar = some d ∧ digitIn? 10 d.digitChar.toUpper = some d := by decide
  have hexadecimal : ∀ d < 16,
      digitIn? 16 d.digitChar = some d ∧ digitIn? 16 d.digitChar.toUpper = some d := by decide
  obtain ⟨small, either⟩ := digit
  have read : digitIn? radix d.digitChar = some d ∧ digitIn? radix d.digitChar.toUpper = some d := by
    rcases known with rfl | rfl
    · exact decimal d small
    · exact hexadecimal d small
  rcases either with rfl | rfl
  · exact read.1
  · exact read.2

theorem isDigit_of_digitIn? {radix : Nat} (known : radix = 10 ∨ radix = 16) {c : Char} {d : Nat}
    (found : digitIn? radix c = some d) : IsDigit radix c d := by
  have atMost : radix ≤ 16 := by rcases known with rfl | rfl <;> decide
  have code {a b : Char} (within : a ≤ c ∧ c ≤ b) : a.toNat ≤ c.toNat ∧ c.toNat ≤ b.toNat := within
  have spelt {k : Nat} (same : c.toNat = k) : c = Char.ofNat k := by rw [← same, Char.ofNat_toNat]
  have digits : ∀ v < 10, Char.ofNat (v + 48) = v.digitChar := by decide
  have lower : ∀ v < 16, 10 ≤ v → Char.ofNat (v + 87) = v.digitChar := by decide
  have upper : ∀ v < 16, 10 ≤ v → Char.ofNat (v + 55) = v.digitChar.toUpper := by decide
  rw [digitIn?] at found
  obtain ⟨small, same⟩ := Option.ite_none_right_eq_some.mp found
  obtain rfl := Option.some.inj same
  refine ⟨small, ?_⟩
  by_cases digit : '0' ≤ c ∧ c ≤ '9'
  · have bounds : 48 ≤ c.toNat ∧ c.toNat ≤ 57 := code digit
    rw [if_pos digit, ← digits _ (by omega)]
    exact .inl (spelt (by omega))
  · by_cases minuscule : 'a' ≤ c ∧ c ≤ 'f'
    · have bounds : 97 ≤ c.toNat ∧ c.toNat ≤ 102 := code minuscule
      rw [if_neg digit, if_pos minuscule, ← lower _ (by omega) (by omega)]
      exact .inl (spelt (by omega))
    · by_cases capital : 'A' ≤ c ∧ c ≤ 'F'
      · have bounds : 65 ≤ c.toNat ∧ c.toNat ≤ 70 := code capital
        rw [if_neg digit, if_neg minuscule, if_pos capital, ← upper _ (by omega) (by omega)]
        exact .inr (spelt (by omega))
      · rw [if_neg digit, if_neg minuscule, if_neg capital] at small
        exact absurd small (Nat.lt_irrefl radix)

theorem digitIn?_eq_some_iff {radix : Nat} (known : radix = 10 ∨ radix = 16) {c : Char} {d : Nat} :
    digitIn? radix c = some d ↔ IsDigit radix c d :=
  ⟨isDigit_of_digitIn? known, digitIn?_of_isDigit known⟩

/-! ## Reading digits -/

/-- The number of some digits behind those of another one. -/
def behind (radix n : Nat) (ds : List Nat) : Nat := ds.foldl (fun n d => radix * n + d) n

theorem behind_zero (radix : Nat) (ds : List Nat) : behind radix 0 ds = Nat.ofDigits radix ds.reverse := by
  rw [Nat.ofDigits_eq_foldr, List.foldr_reverse, behind]
  refine congrArg (fun f => List.foldl f 0 ds) ?_
  funext n d
  exact Nat.add_comm _ _

theorem le_behind {radix : Nat} (positive : 0 < radix) (n : Nat) (ds : List Nat) :
    n ≤ behind radix n ds := by
  induction ds generalizing n with
  | nil => exact Nat.le_refl n
  | cons d ds ih =>
    calc n ≤ radix * n := Nat.le_mul_of_pos_left n positive
      _ ≤ radix * n + d := Nat.le_add_right _ _
      _ ≤ behind radix n (d :: ds) := ih _

section Digits

variable {radix : Nat} (known : radix = 10 ∨ radix = 16)

include known

theorem step_ok_iff {n m : Nat} {c : Char} :
    step radix n c = .ok m ↔ ∃ d, IsDigit radix c d ∧ m = radix * n + d ∧ m < 2 ^ 64 := by
  have word : 1 <<< 64 = 2 ^ 64 := by decide
  rw [step, word]
  constructor
  · intro read
    cases found : digitIn? radix c with
    | none =>
      rw [found] at read
      cases read
    | some d =>
      rw [found] at read
      by_cases fits : radix * n + d < 2 ^ 64
      · obtain rfl := Except.ok.inj ((if_pos fits).symm.trans read)
        exact ⟨d, (digitIn?_eq_some_iff known).mp found, rfl, fits⟩
      · cases (if_neg fits).symm.trans read
  · rintro ⟨d, digit, rfl, fits⟩
    rw [(digitIn?_eq_some_iff known).mpr digit]
    exact if_pos fits

theorem step_overflow {n d : Nat} {c : Char} (digit : IsDigit radix c d) (large : 2 ^ 64 ≤ radix * n + d) :
    step radix n c = .error .overflow := by
  have word : 1 <<< 64 = 2 ^ 64 := by decide
  rw [step, word, (digitIn?_eq_some_iff known).mpr digit]
  exact if_neg (Nat.not_lt_of_le large)

/-- Digits are read on behind a number exactly if they are digits and the number of all of them fits. -/
theorem foldlM_step_ok_iff {n m : Nat} (fits : n < 2 ^ 64) {cs : List Char} :
    cs.foldlM (step radix) n = .ok m ↔
      ∃ ds, List.Forall₂ (IsDigit radix) cs ds ∧ m = behind radix n ds ∧ m < 2 ^ 64 := by
  induction cs generalizing n with
  | nil =>
    constructor
    · intro read
      cases read
      exact ⟨[], .nil, rfl, fits⟩
    · rintro ⟨_, _ | _, rfl, _⟩
      rfl
  | cons c cs ih =>
    rw [List.foldlM_cons, bind_ok_iff]
    constructor
    · rintro ⟨next, first, later⟩
      obtain ⟨d, digit, rfl, fits'⟩ := (step_ok_iff known).mp first
      obtain ⟨ds, digits, same, fits''⟩ := (ih fits').mp later
      exact ⟨d :: ds, .cons digit digits, same, fits''⟩
    · rintro ⟨_, _ | @⟨_, d, _, ds, digit, digits⟩, rfl, fits'⟩
      -- What is read so far is no more than the whole number.
      have fits'' := Nat.lt_of_le_of_lt (le_behind (by omega) (radix * n + d) ds) fits'
      exact ⟨_, (step_ok_iff known).mpr ⟨d, digit, rfl, fits''⟩, (ih fits'').mpr ⟨ds, digits, rfl, fits'⟩⟩

theorem foldlM_step_overflow {n : Nat} (fits : n < 2 ^ 64) {cs : List Char} {ds : List Nat}
    (digits : List.Forall₂ (IsDigit radix) cs ds) (large : 2 ^ 64 ≤ behind radix n ds) :
    cs.foldlM (step radix) n = .error .overflow := by
  induction digits generalizing n with
  | nil => exact absurd fits (Nat.not_lt_of_le large)
  | @cons c d cs ds digit _ ih =>
    rw [List.foldlM_cons]
    by_cases fits' : radix * n + d < 2 ^ 64
    · rw [(step_ok_iff known).mpr ⟨d, digit, rfl, fits'⟩]
      exact ih fits' large
    · rw [step_overflow known digit (Nat.le_of_not_lt fits')]
      rfl

theorem ofDigits_ok_iff {cs : List Char} (filled : cs ≠ []) {n : Nat} :
    ofDigits radix cs = .ok n ↔ Denotes radix cs n ∧ n < 2 ^ 64 := by
  rw [ofDigits, foldlM_step_ok_iff known (by decide), Denotes]
  simp only [behind_zero]
  constructor
  · rintro ⟨ds, digits, same, fits⟩
    exact ⟨⟨filled, ds, digits, same⟩, fits⟩
  · rintro ⟨⟨_, ds, digits, same⟩, fits⟩
    exact ⟨ds, digits, same, fits⟩

theorem ofDigits_overflow {cs : List Char} {n : Nat} (denotes : Denotes radix cs n) (large : 2 ^ 64 ≤ n) :
    ofDigits radix cs = .error .overflow := by
  obtain ⟨_, ds, digits, rfl⟩ := denotes
  rw [← behind_zero] at large
  exact foldlM_step_overflow known (by decide) digits large

theorem Denotes.solid {cs : List Char} {n : Nat} (denotes : Denotes radix cs n) :
    ∀ c ∈ cs, Text.isBlank c = false ∧ c ≠ '+' := by
  intro c member
  obtain ⟨_, ds, digits, _⟩ := denotes
  obtain ⟨d, _, digit⟩ := exists_of_forall₂_right digits.flip member
  exact isDigit_solid known digit

theorem Denotes.digitIn?_isSome {cs : List Char} {n : Nat} (denotes : Denotes radix cs n) :
    ∀ c ∈ cs, (digitIn? radix c).isSome := by
  intro c member
  obtain ⟨_, ds, digits, _⟩ := denotes
  obtain ⟨d, _, digit⟩ := exists_of_forall₂_right digits.flip member
  rw [(digitIn?_eq_some_iff known).mpr digit]
  rfl

/-! ## Signs -/

theorem ofSigned_of_denotesSigned {cs : List Char} {n : Nat} (signed : DenotesSigned radix cs n) :
    ∃ digits, digits ≠ [] ∧ Denotes radix digits n ∧ ofSigned radix cs = ofDigits radix digits := by
  rcases signed with denotes | ⟨digits, rfl, denotes⟩
  · refine ⟨cs, denotes.1, denotes, ?_⟩
    unfold ofSigned
    split
    · exact absurd rfl denotes.1
    · exact absurd rfl (denotes.solid known '+' List.mem_cons_self).2
    · exact absurd rfl (denotes.solid known '+' List.mem_cons_self).2
    · rfl
  · refine ⟨digits, denotes.1, denotes, ?_⟩
    cases digits with
    | nil => exact absurd rfl denotes.1
    | cons c rest => rfl

theorem ofSigned_ok {cs : List Char} {n : Nat} (signed : DenotesSigned radix cs n) (fits : n < 2 ^ 64) :
    ofSigned radix cs = .ok n := by
  obtain ⟨digits, filled, denotes, same⟩ := ofSigned_of_denotesSigned known signed
  rw [same]
  exact (ofDigits_ok_iff known filled).mpr ⟨denotes, fits⟩

theorem ofSigned_overflow {cs : List Char} {n : Nat} (signed : DenotesSigned radix cs n)
    (large : 2 ^ 64 ≤ n) : ofSigned radix cs = .error .overflow := by
  obtain ⟨digits, _, denotes, same⟩ := ofSigned_of_denotesSigned known signed
  rw [same]
  exact ofDigits_overflow known denotes large

theorem denotesSigned_of_ofSigned {cs : List Char} {n : Nat} (read : ofSigned radix cs = .ok n) :
    DenotesSigned radix cs n ∧ n < 2 ^ 64 := by
  unfold ofSigned at read
  split at read
  · cases read
  · cases read
  · rename_i digits alone
    obtain ⟨denotes, fits⟩ := (ofDigits_ok_iff known (fun empty => alone (by rw [empty]))).mp read
    exact ⟨.inr ⟨digits, rfl, denotes⟩, fits⟩
  · rename_i filled _ _
    obtain ⟨denotes, fits⟩ := (ofDigits_ok_iff known filled).mp read
    exact ⟨.inl denotes, fits⟩

end Digits

/-! ## Reading numerals -/

/-- No decimal numeral begins like a hexadecimal one. -/
theorem ofChars_of_decimal {cs : List Char} {n : Nat} (signed : DenotesSigned 10 cs n) :
    ofChars cs = ofSigned 10 cs := by
  have marks {x : Char} (mark : digitIn? 10 x = none) {rest : List Char} (same : cs = '0' :: x :: rest) :
      False := by
    subst same
    rcases signed with denotes | ⟨digits, same, _⟩
    · have digit := denotes.digitIn?_isSome (.inl rfl) x (by simp)
      rw [mark] at digit
      cases digit
    · cases same
  unfold ofChars
  split
  · exact (marks (by decide) rfl).elim
  · exact (marks (by decide) rfl).elim
  · rfl

theorem ofChars_ok {cs : List Char} {n : Nat} (numeral : Numeral cs n) (fits : n < 2 ^ 64) :
    ofChars cs = .ok n := by
  cases numeral with
  | decimal signed =>
    rw [ofChars_of_decimal signed]
    exact ofSigned_ok (.inl rfl) signed fits
  | hexadecimal mark signed =>
    rcases mark with rfl | rfl
    · exact ofSigned_ok (.inr rfl) signed fits
    · exact ofSigned_ok (.inr rfl) signed fits

theorem ofChars_overflow {cs : List Char} {n : Nat} (numeral : Numeral cs n) (large : 2 ^ 64 ≤ n) :
    ofChars cs = .error .overflow := by
  cases numeral with
  | decimal signed =>
    rw [ofChars_of_decimal signed]
    exact ofSigned_overflow (.inl rfl) signed large
  | hexadecimal mark signed =>
    rcases mark with rfl | rfl
    · exact ofSigned_overflow (.inr rfl) signed large
    · exact ofSigned_overflow (.inr rfl) signed large

theorem numeral_of_ofChars {cs : List Char} {n : Nat} (read : ofChars cs = .ok n) :
    Numeral cs n ∧ n < 2 ^ 64 := by
  unfold ofChars at read
  split at read
  · obtain ⟨signed, fits⟩ := denotesSigned_of_ofSigned (.inr rfl) read
    exact ⟨.hexadecimal (.inl rfl) signed, fits⟩
  · obtain ⟨signed, fits⟩ := denotesSigned_of_ofSigned (.inr rfl) read
    exact ⟨.hexadecimal (.inr rfl) signed, fits⟩
  · obtain ⟨signed, fits⟩ := denotesSigned_of_ofSigned (.inl rfl) read
    exact ⟨.decimal signed, fits⟩

theorem DenotesSigned.solid {radix : Nat} (known : radix = 10 ∨ radix = 16) {cs : List Char} {n : Nat}
    (signed : DenotesSigned radix cs n) : ∀ c ∈ cs, Text.isBlank c = false := by
  rcases signed with denotes | ⟨digits, rfl, denotes⟩
  · exact fun c member => (denotes.solid known c member).1
  · exact List.forall_mem_cons.mpr ⟨by decide, fun c member => (denotes.solid known c member).1⟩

theorem Numeral.solid {cs : List Char} {n : Nat} (numeral : Numeral cs n) :
    ∀ c ∈ cs, Text.isBlank c = false := by
  cases numeral with
  | decimal signed => exact signed.solid (.inl rfl)
  | hexadecimal mark signed =>
    refine List.forall_mem_cons.mpr ⟨by decide, List.forall_mem_cons.mpr ⟨?_, signed.solid (.inr rfl)⟩⟩
    rcases mark with rfl | rfl <;> decide

/-- A text spells what is left of it without the blanks at its ends. -/
theorem spells_iff {s : String} {n : Nat} : Spells s n ↔ Numeral (Text.trimChars s.toList) n := by
  constructor
  · rintro ⟨lead, core, trail, split, blank, numeral⟩
    obtain ⟨leads, trails⟩ := List.forall_mem_append.mp blank
    rw [split, Text.trimChars_padded leads trails numeral.solid]
    exact numeral
  · intro numeral
    obtain ⟨lead, trail, split, blank⟩ := Text.exists_padding s.toList
    exact ⟨lead, _, trail, split, blank, numeral⟩

theorem read_eq (s : String) : read s = UInt64.ofNat <$> ofChars (Text.trimChars s.toList) := by
  rw [read, Text.trim, String.toList_ofList]

theorem read_ok_iff {s : String} {w : UInt64} : read s = .ok w ↔ Spells s w.toNat := by
  rw [read_eq, spells_iff]
  constructor
  · intro read
    obtain ⟨n, first, rfl⟩ := map_ok_iff.mp read
    obtain ⟨numeral, fits⟩ := numeral_of_ofChars first
    rw [UInt64.toNat_ofNat_of_lt' fits]
    exact numeral
  · intro numeral
    rw [ofChars_ok numeral w.toNat_lt]
    exact congrArg Except.ok UInt64.ofNat_toNat

theorem read_overflow {s : String} {n : Nat} (spells : Spells s n) (large : 2 ^ 64 ≤ n) :
    read s = .error .overflow := by
  rw [read_eq, ofChars_overflow (spells_iff.mp spells) large]
  rfl

/-- A text is refused exactly if no number that it spells fits. -/
theorem read_error_iff {s : String} : (∃ fault, read s = .error fault) ↔ ∀ n, Spells s n → 2 ^ 64 ≤ n := by
  constructor
  · rintro ⟨fault, refused⟩ n spells
    by_contra small
    have fits := Nat.lt_of_not_le small
    have found : read s = .ok (UInt64.ofNat n) := by
      rw [read_ok_iff, UInt64.toNat_ofNat_of_lt' fits]
      exact spells
    cases refused.symm.trans found
  · intro large
    cases result : read s with
    | error fault => exact ⟨fault, rfl⟩
    | ok w => exact absurd (large _ (read_ok_iff.mp result)) (Nat.not_le_of_lt w.toNat_lt)

/-! ## Usual spellings -/

/-- The digits of a number in order denote it, in either case of letters. -/
theorem denotes_toDigits {radix : Nat} (known : radix = 10 ∨ radix = 16) {case : Char → Char}
    (either : case = id ∨ case = Char.toUpper) (n : Nat) :
    Denotes radix ((Nat.toDigits radix n).map case) n := by
  have above : 1 < radix := by omega
  have digit {d : Nat} (small : d < radix) : IsDigit radix (case d.digitChar) d := by
    rcases either with rfl | rfl
    · exact ⟨small, .inl rfl⟩
    · exact ⟨small, .inr rfl⟩
  induction n using Nat.strongRecOn with
  | ind n ih =>
    rcases Nat.lt_or_ge n radix with small | large
    · rw [Nat.toDigits_of_lt_base small]
      exact ⟨by simp, [n], .cons (digit small) .nil, by simp⟩
    · obtain ⟨_, ds, digits, same⟩ := ih (n / radix) (Nat.div_lt_self (by omega) above)
      rw [Nat.toDigits_of_base_le above large, List.map_append]
      refine ⟨by simp, ds ++ [n % radix], ?_, ?_⟩
      · exact List.rel_append digits (.cons (digit (Nat.mod_lt _ (by omega))) .nil)
      · rw [List.reverse_append, List.reverse_singleton, List.singleton_append, Nat.ofDigits_cons, ← same]
        exact (Nat.mod_add_div n radix).symm

/-- The decimal spelling of a number and its hexadecimal ones, in either case of letters. -/
def spellings (n : Nat) : List (List Char) :=
  [Nat.toDigits 10 n,
    '0' :: 'x' :: Nat.toDigits 16 n, '0' :: 'X' :: Nat.toDigits 16 n,
    '0' :: 'x' :: (Nat.toDigits 16 n).map Char.toUpper, '0' :: 'X' :: (Nat.toDigits 16 n).map Char.toUpper]

theorem numeral_spellings (n : Nat) : ∀ cs ∈ spellings n, Numeral cs n := by
  have decimal := denotes_toDigits (.inl rfl) (.inl rfl) n
  have lower := denotes_toDigits (.inr rfl) (.inl rfl) n
  have upper := denotes_toDigits (.inr rfl) (.inr rfl) n
  rw [List.map_id] at decimal lower
  simp only [spellings, List.forall_mem_cons]
  exact ⟨.decimal (.inl decimal), .hexadecimal (.inl rfl) (.inl lower), .hexadecimal (.inr rfl) (.inl lower),
    .hexadecimal (.inl rfl) (.inl upper), .hexadecimal (.inr rfl) (.inl upper), by simp⟩

/-! ## All of it -/

/-- Texts of numbers are read exactly or refused. -/
structure ReadsExactly (s : String) : Prop where
  reads : ∀ w, read s = .ok w ↔ Spells s w.toNat
  /-- Only a text is refused that spells no number, or one that is too large. -/
  refuses : (∃ fault, read s = .error fault) ↔ ∀ n, Spells s n → 2 ^ 64 ≤ n
  /-- A numeral that is too large is refused as such. -/
  tooLarge : ∀ n, Spells s n → 2 ^ 64 ≤ n → read s = .error .overflow
  /-- A document that is this text is read alike. -/
  decodes : ∀ v : Value, v.resolved? = some (.text s) →
    (∀ w, decode v = .ok w ↔ Spells s w.toNat) ∧
    ∀ fault, read s = .error fault → decode v = .refused ⟨[], .number (Text.trim s) fault⟩
  /-- The spellings of a word are read as that word, whatever blanks are around them. -/
  returns : ∀ (w : UInt64) (lead trail : List Char), (∀ c ∈ lead ++ trail, Text.isBlank c) →
    ∀ cs ∈ spellings w.toNat, s = String.ofList (lead ++ cs ++ trail) → read s = .ok w

theorem decode_eq {v : Value} {s : String} (isText : v.resolved? = some (.text s)) :
    decode v = match read s with
      | .ok w => .ok w
      | .error fault => .refused ⟨[], .number (Text.trim s) fault⟩ := by
  cases found : read s with
  | ok w => simp [decode, isText, found]
  | error fault => simp [decode, isText, found]

theorem decode_ok_iff {v : Value} {s : String} (isText : v.resolved? = some (.text s)) {w : UInt64} :
    decode v = .ok w ↔ Spells s w.toNat := by
  rw [decode_eq isText, ← read_ok_iff]
  cases read s <;> simp

/-- A text is read as the word that it spells, or it is refused. -/
theorem read_exactly (s : String) : ReadsExactly s where
  reads _ := read_ok_iff
  refuses := read_error_iff
  tooLarge _ spells large := read_overflow spells large
  decodes v isText := by
    refine ⟨fun w => decode_ok_iff isText, fun fault refused => ?_⟩
    rw [decode_eq isText, refused]
  returns := by
    rintro w lead trail blank cs usual rfl
    rw [read_ok_iff]
    exact ⟨lead, cs, trail, String.toList_ofList, blank, numeral_spellings _ cs usual⟩

end NumberText

end TechniqueScan
