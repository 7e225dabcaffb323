import Mathlib.Algebra.Order.BigOperators.GroupWithZero.List
import Mathlib.Data.Rat.Floor
import TechniqueScan.Confidence

/-!
Confidences in exact arithmetic. However weights are combined, what comes out is no less than 0, and
more evidence never makes it less.
-/

namespace TechniqueScan

open Arithmetic hiding max

/-! ## Rounding -/

theorem roundHalfAway_nonneg {x : Rat} (nonneg : 0 ≤ x) : 0 ≤ Rat.roundHalfAway x := by
  rw [Rat.roundHalfAway, if_pos nonneg, Rat.le_floor_iff]
  push_cast
  linarith

theorem roundTo_nonneg (places : Nat) {x : Rat} (nonneg : 0 ≤ x) : 0 ≤ roundTo places x := by
  have scaled : 0 ≤ Rat.roundHalfAway (x * (Nat.pow 10 places : Nat)) :=
    roundHalfAway_nonneg (mul_nonneg nonneg (Nat.cast_nonneg _))
  exact div_nonneg (Int.cast_nonneg scaled) (Nat.cast_nonneg _)

theorem roundHalfAway_mono {x y : Rat} (nonneg : 0 ≤ x) (atMost : x ≤ y) :
    Rat.roundHalfAway x ≤ Rat.roundHalfAway y := by
  rw [Rat.roundHalfAway, Rat.roundHalfAway, if_pos nonneg, if_pos (nonneg.trans atMost)]
  exact Rat.floor_monotone (by linarith)

theorem roundTo_mono (places : Nat) {x y : Rat} (nonneg : 0 ≤ x) (atMost : x ≤ y) :
    roundTo places x ≤ roundTo places y := by
  have scale : (0 : Rat) ≤ (Nat.pow 10 places : Nat) := Nat.cast_nonneg _
  have scaled : x * (Nat.pow 10 places : Nat) ≤ y * (Nat.pow 10 places : Nat) :=
    mul_le_mul_of_nonneg_right atMost scale
  have rounded := roundHalfAway_mono (mul_nonneg nonneg scale) scaled
  exact div_le_div_of_nonneg_right (Int.cast_le.mpr rounded) scale

theorem roundHalfAway_natCast (n : Nat) : Rat.roundHalfAway n = n := by
  rw [Rat.roundHalfAway, if_pos (Nat.cast_nonneg n)]
  refine le_antisymm ?_ ?_
  · refine Int.lt_add_one_iff.mp (Rat.floor_lt_iff.mpr ?_)
    push_cast
    linarith
  · refine Rat.le_floor_iff.mpr ?_
    push_cast
    linarith

/-- Whole numbers are kept as they are. -/
theorem roundTo_natCast (places n : Nat) : roundTo places (n : Rat) = n := by
  have scaled : Rat.roundHalfAway ((n : Rat) * (Nat.pow 10 places : Nat)) = (n * Nat.pow 10 places : Nat) := by
    rw [← Nat.cast_mul, roundHalfAway_natCast]
  have scale : ((Nat.pow 10 places : Nat) : Rat) ≠ 0 := Nat.cast_ne_zero.mpr (pow_ne_zero places (by decide))
  show ((Rat.roundHalfAway _ : Int) : Rat) / _ = _
  rw [scaled, Int.cast_natCast, Nat.cast_mul, mul_div_cancel_right₀ _ scale]

/-- What is rounded lies on the grid of its last decimal place. -/
theorem roundTo_grid (places : Nat) {x : Rat} (nonneg : 0 ≤ x) :
    ∃ n : Nat, roundTo places x = n / (Nat.pow 10 places : Nat) := by
  have scaled : 0 ≤ Rat.roundHalfAway (x * (Nat.pow 10 places : Nat)) :=
    roundHalfAway_nonneg (mul_nonneg nonneg (Nat.cast_nonneg _))
  obtain ⟨n, whole⟩ := Int.eq_ofNat_of_zero_le scaled
  refine ⟨n, ?_⟩
  show ((Rat.roundHalfAway _ : Int) : Rat) / _ = _
  rw [whole, Int.cast_natCast]

theorem clampUnit_eq (x : Rat) : clampUnit x = max 0 (min x 1) := by
  have unfolded : clampUnit x = if x < 0 then 0 else if 1 < x then 1 else x := by
    simp [clampUnit, lt, ofNat]
  rw [unfolded]
  split
  · rename_i below
    rw [max_eq_left ((min_le_left x 1).trans below.le)]
  · rename_i notBelow
    have nonneg := not_lt.mp notBelow
    split
    · rename_i above
      rw [min_eq_right above.le, max_eq_right zero_le_one]
    · rename_i notAbove
      rw [min_eq_left (not_lt.mp notAbove), max_eq_right nonneg]

theorem clampUnit_nonneg (x : Rat) : 0 ≤ clampUnit x := by
  rw [clampUnit_eq]
  exact le_max_left 0 _

theorem clampUnit_mono {x y : Rat} (atMost : x ≤ y) : clampUnit x ≤ clampUnit y := by
  rw [clampUnit_eq, clampUnit_eq]
  exact max_le_max_left 0 (min_le_min_right 1 atMost)

theorem clampUnit_le_one (x : Rat) : clampUnit x ≤ 1 := by
  rw [clampUnit_eq]
  exact max_le zero_le_one (min_le_right x 1)

/-! ## Combining -/

theorem ofNat_one : (ofNat 1 : Rat) = 1 := Nat.cast_one

/-- The chance that a piece of evidence of this weight is wrong. -/
def doubt (w : Rat) : Rat := 1 - clampUnit w

theorem doubt_nonneg (w : Rat) : 0 ≤ doubt w := sub_nonneg.mpr (clampUnit_le_one w)

theorem doubt_le_one (w : Rat) : doubt w ≤ 1 := sub_le_self 1 (clampUnit_nonneg w)

theorem residual_eq (weights : List Rat) : residual weights = (weights.map doubt).prod := by
  have folded (start : Rat) : weights.foldl (fun product w => mul product (sub (ofNat 1) (clampUnit w)))
      start = start * (weights.map doubt).prod := by
    induction weights generalizing start with
    | nil => simp
    | cons w rest ih =>
      rw [List.foldl_cons, ih, List.map_cons, List.prod_cons, ← mul_assoc]
      rfl
  rw [residual, folded, ofNat_one, one_mul]

/-- More evidence is less likely to be wrong altogether. -/
theorem residual_le_of_sublist {weights more : List Rat} (sub : weights.Sublist more) :
    residual more ≤ residual weights := by
  rw [residual_eq, residual_eq]
  have nonneg (weights : List Rat) : 0 ≤ (weights.map doubt).prod := by
    refine List.prod_nonneg fun d member => ?_
    obtain ⟨w, _, rfl⟩ := List.mem_map.mp member
    exact doubt_nonneg w
  induction sub with
  | slnil => exact le_refl _
  | @cons weights more w _ ih =>
    rw [List.map_cons, List.prod_cons]
    exact (mul_le_of_le_one_left (nonneg more) (doubt_le_one w)).trans ih
  | cons_cons w _ ih =>
    rw [List.map_cons, List.map_cons, List.prod_cons, List.prod_cons]
    exact mul_le_mul_of_nonneg_left ih (doubt_nonneg w)

theorem combineWeights_eq (weights : List Rat) :
    combineWeights weights = roundTo 4 (clampUnit (1 - residual weights)) := by
  simp [combineWeights, roundConfidence, isNaN, Arithmetic.sub, ofNat_one]

theorem combineWeights_le_of_sublist {weights more : List Rat} (sub : weights.Sublist more) :
    combineWeights weights ≤ combineWeights more := by
  have less := sub_le_sub_left (residual_le_of_sublist sub) 1
  rw [combineWeights_eq, combineWeights_eq]
  exact roundTo_mono 4 (clampUnit_nonneg _) (clampUnit_mono less)

theorem combineWeights_of_perm {weights others : List Rat} (perm : weights.Perm others) :
    combineWeights others = combineWeights weights := by
  rw [combineWeights_eq, combineWeights_eq, residual_eq, residual_eq, (perm.map doubt).prod_eq]

/-- A confidence as it is kept: some ten-thousandths, and no more than all of them. -/
def InTenThousandths (x : Rat) : Prop := ∃ n : Nat, n ≤ 10000 ∧ x = n / 10000

theorem combineWeights_inTenThousandths (weights : List Rat) :
    InTenThousandths (combineWeights weights) := by
  rw [combineWeights_eq]
  have nonneg := clampUnit_nonneg (1 - residual weights)
  obtain ⟨n, kept⟩ := roundTo_grid 4 nonneg
  have scale : ((Nat.pow 10 4 : Nat) : Rat) = 10000 := by norm_num
  rw [scale] at kept
  -- Rounding keeps the order and leaves 1 alone, so it does not lead above 1.
  have atMost : roundTo 4 (clampUnit (1 - residual weights)) ≤ roundTo 4 ((1 : Nat) : Rat) :=
    roundTo_mono 4 nonneg ((clampUnit_le_one _).trans_eq Nat.cast_one.symm)
  rw [roundTo_natCast, kept, Nat.cast_one, div_le_one (by norm_num)] at atMost
  exact ⟨n, by exact_mod_cast atMost, kept⟩

theorem combineWeights_nonneg (weights : List Rat) : 0 ≤ combineWeights weights :=
  roundTo_nonneg 4 (clampUnit_nonneg _)

theorem confidenceFor_nonneg (weights : List Rat) (boost : Rat) : 0 ≤ confidenceFor weights boost := by
  unfold confidenceFor
  split
  · exact combineWeights_nonneg _
  · exact combineWeights_nonneg _

theorem confidenceFor_inTenThousandths (weights : List Rat) (boost : Rat) :
    InTenThousandths (confidenceFor weights boost) := by
  unfold confidenceFor
  split
  · exact combineWeights_inTenThousandths _
  · exact combineWeights_inTenThousandths _

/-- Without a boost, evidence that a rule ties together is worth what it is worth without the rule. -/
theorem confidenceFor_zero (weights : List Rat) : confidenceFor weights 0 = combineWeights weights := by
  have none : lt (ofNat 0) (0 : Rat) = false := by decide +kernel
  rw [confidenceFor, none]
  rfl

/-- Evidence that a rule ties together is worth no less than any part of it without the rule. -/
theorem combineWeights_le_confidenceFor {weights more : List Rat} (sub : weights.Sublist more)
    (boost : Rat) : combineWeights weights ≤ confidenceFor more boost := by
  unfold confidenceFor
  split
  · exact combineWeights_le_of_sublist (sub.trans (List.sublist_append_left more [boost]))
  · exact combineWeights_le_of_sublist sub

end TechniqueScan
