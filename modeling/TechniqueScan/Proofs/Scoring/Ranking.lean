import TechniqueScan.Proofs.Confidence
import TechniqueScan.Proofs.Scoring.Groups

/-!
The order of a listing. Where confidences are ordered, findings of one category that are listed side
by side without a decision have one key, so that merged findings are listed in one way only.
-/

namespace TechniqueScan

open Std (LawfulEqOrd OrientedCmp TransCmp)

/-! ## The order of confidences -/

instance : TransCmp (@Arithmetic.compareTotal Float _) :=
  inferInstanceAs <| TransCmp (compareOn Float.totalKey)

theorem compareTotal_eq (a b : Rat) :
    Arithmetic.compareTotal a b = if a < b then .lt else if b < a then .gt else .eq := rfl

theorem compareTotal_isLE_iff {a b : Rat} : (Arithmetic.compareTotal a b).isLE ↔ a ≤ b := by
  rw [compareTotal_eq]
  rcases lt_trichotomy a b with less | rfl | greater
  · simp [less, less.le]
  · simp
  · simp [greater, greater.not_gt]

instance : TransCmp (@Arithmetic.compareTotal Rat _) where
  eq_swap {a b} := by
    rw [compareTotal_eq, compareTotal_eq]
    rcases lt_trichotomy a b with less | rfl | greater
    · simp [less, less.not_gt]
    · simp
    · simp [greater, greater.not_gt]
  isLE_trans {a b c} first second := by
    rw [compareTotal_isLE_iff] at first second ⊢
    exact first.trans second

/-! ## The order of findings -/

variable {α : Type} [Arithmetic α]

/-- Things can be ordered by a falling number. -/
theorem falling_transCmp [TransCmp (@Arithmetic.compareTotal α _)] {β : Type} (number : β → α) :
    TransCmp fun a b => Arithmetic.compareTotal (number b) (number a) where
  eq_swap {a b} := @OrientedCmp.eq_swap α Arithmetic.compareTotal _ (number b) (number a)
  isLE_trans first second := @TransCmp.isLE_trans α Arithmetic.compareTotal _ _ _ _ second first

namespace Finding

/-- Findings compared by their confidences, the higher one first. -/
def byConfidence (f g : Finding α) : Ordering := Arithmetic.compareTotal g.confidence f.confidence

variable [TransCmp (@Arithmetic.compareTotal α _)]

instance : TransCmp (@byConfidence α _) := falling_transCmp Finding.confidence

instance : TransCmp (@listingOrder α _) :=
  inferInstanceAs <| TransCmp (compareLex (compareLex (compareLex (compareLex byConfidence
    (compareOn Finding.scope)) (compareOn Finding.address)) (compareOn Finding.signatures))
    (compareOn Finding.title))

omit [TransCmp (@Arithmetic.compareTotal α _)] in
/-- Findings of one category between which the order of a listing does not decide have one key. -/
theorem key_eq_of_listingOrder_eq {f g : Finding α} (category : f.category = g.category)
    (undecided : f.listingOrder g = .eq) : f.key = g.key := by
  obtain ⟨before, _⟩ := Ordering.then_eq_eq.mp undecided
  obtain ⟨before, signatures⟩ := Ordering.then_eq_eq.mp before
  obtain ⟨before, _⟩ := Ordering.then_eq_eq.mp before
  obtain ⟨_, scope⟩ := Ordering.then_eq_eq.mp before
  rw [key, key, category, LawfulEqOrd.eq_of_compare scope, LawfulEqOrd.eq_of_compare signatures]

omit [TransCmp (@Arithmetic.compareTotal α _)] in
/-- What is listed earlier has no lower confidence. -/
theorem confidence_isLE {f g : Finding α} (before : (f.listingOrder g).isLE) :
    (Arithmetic.compareTotal g.confidence f.confidence).isLE :=
  Ordering.isLE_left_of_isLE_then (Ordering.isLE_left_of_isLE_then
    (Ordering.isLE_left_of_isLE_then (Ordering.isLE_left_of_isLE_then before)))

end Finding

variable [TransCmp (@Arithmetic.compareTotal α _)]

theorem rank_pairwise (findings : List (Finding α)) :
    (rank findings).Pairwise fun f g => (f.listingOrder g).isLE :=
  mergeSort_pairwise_isLE Finding.listingOrder findings

/-- Where the order of a listing decides between all findings, ranking forgets how they came. -/
theorem rank_eq_of_perm {findings others : List (Finding α)} (perm : findings.Perm others)
    (decided : ∀ f ∈ findings, ∀ g ∈ findings, f.listingOrder g = .eq → f = g) :
    rank findings = rank others := by
  have ranked := (rank_perm findings).trans (perm.trans (rank_perm others).symm)
  refine List.Perm.eq_of_pairwise ?_ (rank_pairwise findings) (rank_pairwise others) ranked
  intro f g left right before after
  refine decided f ((rank_perm findings).mem_iff.mp left) g
    (perm.mem_iff.mpr ((rank_perm others).mem_iff.mp right)) ?_
  exact OrientedCmp.isLE_antisymm before after

/-! ## Reordering -/

variable {findings others : List (Finding α)} (perm : findings.Perm others)
  (ascends : ∀ f ∈ findings, StrictlyAscending f.evidence)
  (agree : ∀ f ∈ findings, ∀ g ∈ findings, f.key = g.key → f.Agrees g)

include perm ascends agree

theorem scoreGroup_eq_of_perm (minConfidence : α) {c : Category} (own : ∀ f ∈ findings, f.category = c) :
    scoreGroup minConfidence findings = scoreGroup minConfidence others := by
  refine rank_eq_of_perm ((deduplicate_perm perm ascends agree).filter _) ?_
  intro f kept g kept' undecided
  have left := (List.mem_filter.mp kept).1
  have left' := (List.mem_filter.mp kept').1
  refine List.inj_on_of_nodup_map (deduplicate_keys_nodup findings) left left' ?_
  refine Finding.key_eq_of_listingOrder_eq ?_ undecided
  rw [deduplicate_category own f left, deduplicate_category own g left']

/-- Where findings with one key agree and their evidence ascends, scoring forgets how they came. -/
theorem scoreAll_eq_of_perm (minConfidence : α) (parallel parallel' : Bool) :
    scoreAll minConfidence findings parallel = scoreAll minConfidence others parallel' := by
  rw [scoreAll_eq, scoreAll_eq]
  refine List.filterMap_congr fun c _ => ?_
  have groups := perm.filter fun f => f.category = c
  have scored := scoreGroup_eq_of_perm groups (fun f member => ascends f (List.mem_filter.mp member).1)
    (fun f member g member' => agree f (List.mem_filter.mp member).1 g (List.mem_filter.mp member').1)
    minConfidence fun f member => of_decide_eq_true (List.mem_filter.mp member).2
  cases group : findings.filter fun f => f.category = c with
  | nil =>
    rw [group] at groups
    rw [List.nil_perm.mp groups]
  | cons f rest =>
    cases group' : others.filter fun f => f.category = c with
    | nil =>
      rw [group, group'] at groups
      cases List.perm_nil.mp groups
    | cons f' rest' =>
      rw [group, group'] at scored
      dsimp only
      rw [scored]

end TechniqueScan
