import TechniqueScan.Proofs.Scoring.Ranking

/-!
The comparison of numbers. Numbers are compared by value, and what is no number is less than nothing.
The order of all numbers respects that; it tells numbers of one value apart only where the value is 0.
-/

namespace TechniqueScan

open Arithmetic hiding max
open Std (TransCmp ReflCmp)

/-- Numbers that are compared by value, with an order of all numbers that respects the comparison. -/
class OrderedArithmetic (α : Type) [Arithmetic α] : Prop extends TransCmp (@compareTotal α _) where
  numbers_of_lt {a b : α} : lt a b → isNaN a = false ∧ isNaN b = false
  lt_asymm {a b : α} : lt a b → lt b a = false
  /-- A number is above the lower one of two numbers or below the higher one. -/
  lt_or_lt {a b c : α} : lt a c → isNaN b = false → lt a b ∨ lt b c
  not_lt_of_isLE {a b : α} : (compareTotal a b).isLE → lt b a = false
  zero_number : isNaN (ofNat 0 : α) = false
  /-- Above 0 numbers of one value are not told apart. -/
  same_of_pos {a b : α} : lt (ofNat 0) a → lt (ofNat 0) b → lt a b = false → lt b a = false →
    compareTotal a b = .eq

namespace OrderedArithmetic

variable {α : Type} [Arithmetic α] [OrderedArithmetic α]

theorem lt_irrefl (a : α) : lt a a = false := by
  cases less : lt a a with
  | false => rfl
  | true => exact less.symm.trans (lt_asymm less)

theorem lt_trans {a b c : α} (first : lt a b) (second : lt b c) : lt a c := by
  have number := (numbers_of_lt second).2
  rcases lt_or_lt first number with below | above
  · exact below
  · rw [lt_asymm second] at above
    cases above

/-! ## At most -/

omit [OrderedArithmetic α] in
theorem le_iff {a b : α} : le a b ↔ isNaN a = false ∧ isNaN b = false ∧ lt b a = false := by
  simp [le, and_assoc]

omit [OrderedArithmetic α] in
theorem isNaN_of_le {a b : α} (atMost : le a b) : isNaN b = false := (le_iff.mp atMost).2.1

theorem le_refl {a : α} (number : isNaN a = false) : le a a :=
  le_iff.mpr ⟨number, number, lt_irrefl a⟩

theorem le_of_lt {a b : α} (less : lt a b) : le a b :=
  le_iff.mpr ⟨(numbers_of_lt less).1, (numbers_of_lt less).2, lt_asymm less⟩

theorem le_trans {a b c : α} (first : le a b) (second : le b c) : le a c := by
  obtain ⟨number, middle, notLess⟩ := le_iff.mp first
  obtain ⟨_, number', notLess'⟩ := le_iff.mp second
  refine le_iff.mpr ⟨number, number', Bool.eq_false_iff.mpr fun less => ?_⟩
  rcases lt_or_lt less middle with below | above
  · rw [notLess'] at below
    cases below
  · rw [notLess] at above
    cases above

/-- From 0 on the order of all numbers is the comparison by value. -/
theorem lt_of_compareTotal {a b : α} (nonneg : a = ofNat 0 ∨ lt (ofNat 0) a)
    (nonneg' : b = ofNat 0 ∨ lt (ofNat 0) b) (before : compareTotal a b = .lt) : lt a b := by
  by_contra notLess
  have notLess : lt a b = false := Bool.eq_false_iff.mpr notLess
  have notGreater : lt b a = false := not_lt_of_isLE (Ordering.isLE_of_eq_lt before)
  have same : compareTotal a b = .eq := by
    rcases nonneg with rfl | above
    · rcases nonneg' with rfl | above'
      · exact ReflCmp.compare_self
      · exact (Bool.false_ne_true (notLess.symm.trans above')).elim
    · rcases nonneg' with rfl | above'
      · exact (Bool.false_ne_true (notGreater.symm.trans above)).elim
      · exact same_of_pos above above' notLess notGreater
  rw [same] at before
  cases before

/-! ## The greater of two numbers -/

omit [OrderedArithmetic α] in
theorem max_eq {a b : α} (number : isNaN a = false) (number' : isNaN b = false) :
    Arithmetic.max a b = if lt a b then b else a := by
  simp [Arithmetic.max, number, number']

theorem left_le_max {a b : α} (number : isNaN a = false) (number' : isNaN b = false) :
    le a (Arithmetic.max a b) := by
  rw [max_eq number number']
  split
  · exact le_of_lt ‹_›
  · exact le_refl number

theorem right_le_max {a b : α} (number : isNaN a = false) (number' : isNaN b = false) :
    le b (Arithmetic.max a b) := by
  rw [max_eq number number']
  split
  · exact le_refl number'
  · exact le_iff.mpr ⟨number', number, Bool.eq_false_iff.mpr ‹_›⟩

/-- Taking the greater one number after the other ends with the start or with a number above it. -/
theorem foldl_max {start : α} (number : isNaN start = false) {numbers : List α}
    (others : ∀ y ∈ numbers, isNaN y = false) :
    (numbers.foldl Arithmetic.max start = start ∨
        lt start (numbers.foldl Arithmetic.max start) ∧ numbers.foldl Arithmetic.max start ∈ numbers) ∧
      le start (numbers.foldl Arithmetic.max start) ∧
      ∀ y ∈ numbers, le y (numbers.foldl Arithmetic.max start) := by
  induction numbers generalizing start with
  | nil => exact ⟨.inl rfl, le_refl number, List.forall_mem_nil _⟩
  | cons y rest ih =>
    obtain ⟨here, later⟩ := List.forall_mem_cons.mp others
    have left := left_le_max number here
    have right := right_le_max number here
    obtain ⟨reached, above, bound⟩ := ih (isNaN_of_le left) later
    refine ⟨?_, le_trans left above, List.forall_mem_cons.mpr ⟨le_trans right above, bound⟩⟩
    rw [List.foldl_cons]
    cases less : lt start y with
    | true =>
      have next : Arithmetic.max start y = y := by rw [max_eq number here, if_pos less]
      rw [next] at reached ⊢
      rcases reached with same | ⟨greater, listed⟩
      · rw [same]
        exact .inr ⟨less, List.mem_cons_self⟩
      · exact .inr ⟨lt_trans less greater, List.mem_cons_of_mem _ listed⟩
    | false =>
      have next : Arithmetic.max start y = start := by simp [max_eq number here, less]
      rw [next] at reached ⊢
      rcases reached with same | ⟨greater, listed⟩
      · exact .inl same
      · exact .inr ⟨greater, List.mem_cons_of_mem _ listed⟩

end OrderedArithmetic

/-- The highest of some numbers, which is 0 if there are none. -/
structure Highest {α : Type} [Arithmetic α] (numbers : List α) (x : α) : Prop where
  none : numbers = [] → x = ofNat 0
  bound : ∀ y ∈ numbers, le y x
  reached : numbers ≠ [] → ∃ y ∈ numbers, le x y

theorem Highest.of_perm {α : Type} [Arithmetic α] {numbers others : List α} {x : α}
    (highest : Highest numbers x) (perm : numbers.Perm others) : Highest others x := by
  refine ⟨?_, ?_, ?_⟩
  · intro empty
    rw [empty] at perm
    exact highest.none (List.perm_nil.mp perm)
  · intro y member
    exact highest.bound y (perm.mem_iff.mpr member)
  · intro filled
    obtain ⟨y, member, atLeast⟩ := highest.reached fun empty => filled (List.nil_perm.mp (empty ▸ perm))
    exact ⟨y, perm.mem_iff.mp member, atLeast⟩

/-! ## Exact rationals -/

theorem ratLt_iff {a b : Rat} : lt a b ↔ a < b := decide_eq_true_iff

theorem not_ratLt_iff {a b : Rat} : lt a b = false ↔ b ≤ a := by
  rw [← Bool.not_eq_true, ratLt_iff, not_lt]

instance : OrderedArithmetic Rat where
  numbers_of_lt _ := ⟨rfl, rfl⟩
  lt_asymm less := not_ratLt_iff.mpr (ratLt_iff.mp less).le
  lt_or_lt {a b c} less _ := by
    rw [ratLt_iff] at less
    rw [ratLt_iff, ratLt_iff]
    rcases lt_or_ge a b with above | notAbove
    · exact .inl above
    · exact .inr (notAbove.trans_lt less)
  not_lt_of_isLE atMost := not_ratLt_iff.mpr (compareTotal_isLE_iff.mp atMost)
  zero_number := rfl
  same_of_pos {a b} _ _ notLess notGreater := by
    have same : a = b := le_antisymm (not_ratLt_iff.mp notGreater) (not_ratLt_iff.mp notLess)
    rw [same]
    exact ReflCmp.compare_self

/-! ## Double precision -/

theorem floatLt_iff {a b : Float} : lt a b ↔
    Float.isUndefined a = false ∧ Float.isUndefined b = false ∧ Float.valueKey a < Float.valueKey b := by
  show (_ && _ && _) = true ↔ _
  simp [and_assoc]

theorem Float.valueKey_le_of_totalKey_le {a b : Float} (atMost : Float.totalKey a ≤ Float.totalKey b) :
    Float.valueKey a ≤ Float.valueKey b := by
  unfold Float.totalKey at atMost
  unfold Float.valueKey
  split_ifs at atMost ⊢ <;> omega

/-- The two keys of a number above 0 are equal. -/
theorem Float.totalKey_of_pos {a : Float} (pos : 0 < Float.valueKey a) :
    Float.totalKey a = Float.valueKey a := by
  unfold Float.valueKey at pos
  unfold Float.totalKey Float.valueKey
  split
  · rename_i negative
    rw [if_pos negative] at pos
    omega
  · rfl

theorem Float.zero_keys : Float.isUndefined (Float.ofNat 0) = false ∧
    Float.valueKey (Float.ofNat 0) = 0 := by decide

theorem pos_of_floatLt {a : Float} (above : lt (ofNat 0) a) : 0 < Float.valueKey a := by
  obtain ⟨_, _, less⟩ := floatLt_iff.mp above
  have zero : Float.valueKey (Float.ofNat 0) = 0 := Float.zero_keys.2
  exact zero ▸ less

theorem not_floatLt_iff {a b : Float} (number : Float.isUndefined a = false)
    (number' : Float.isUndefined b = false) :
    lt a b = false ↔ Float.valueKey b ≤ Float.valueKey a := by
  rw [← Bool.not_eq_true, floatLt_iff]
  simp [number, number']

instance : OrderedArithmetic Float where
  numbers_of_lt less := ⟨(floatLt_iff.mp less).1, (floatLt_iff.mp less).2.1⟩
  lt_asymm less := by
    obtain ⟨number, number', less⟩ := floatLt_iff.mp less
    exact (not_floatLt_iff number' number).mpr less.le
  lt_or_lt {a b c} less number := by
    obtain ⟨low, high, less⟩ := floatLt_iff.mp less
    rw [floatLt_iff, floatLt_iff]
    rcases lt_or_ge (Float.valueKey a) (Float.valueKey b) with above | notAbove
    · exact .inl ⟨low, number, above⟩
    · exact .inr ⟨number, high, notAbove.trans_lt less⟩
  not_lt_of_isLE {a b} atMost := by
    have keys := Float.valueKey_le_of_totalKey_le (Std.isLE_compare.mp atMost)
    rw [← Bool.not_eq_true, floatLt_iff]
    rintro ⟨_, _, less⟩
    omega
  zero_number := Float.zero_keys.1
  same_of_pos {a b} above above' notLess notGreater := by
    obtain ⟨_, number, _⟩ := floatLt_iff.mp above
    obtain ⟨_, number', _⟩ := floatLt_iff.mp above'
    have atLeast := (not_floatLt_iff number number').mp notLess
    have atMost := (not_floatLt_iff number' number).mp notGreater
    have same : Float.totalKey a = Float.totalKey b := by
      rw [Float.totalKey_of_pos (pos_of_floatLt above), Float.totalKey_of_pos (pos_of_floatLt above')]
      omega
    exact Std.compare_eq_iff_eq.mpr same

end TechniqueScan
