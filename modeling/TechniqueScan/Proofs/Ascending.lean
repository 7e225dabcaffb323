import Mathlib.Data.List.Sort
import TechniqueScan.FactModel

/-!
Ascending lists. Sorting a list and dropping its repeats yields the only strictly ascending list
with the same members, so two results that are built this way are equal once their members are.
-/

namespace TechniqueScan

open Std

section

variable {α : Type} [Ord α]

/-- Each item comes strictly before all later ones. -/
def StrictlyAscending (items : List α) : Prop := items.Pairwise fun a b => compare a b = .lt

/-- No item comes before an earlier one. -/
def WeaklyAscending (items : List α) : Prop := items.Pairwise fun a b => (compare a b).isLE

theorem strictlyAscending_nodup [TransOrd α] {items : List α} (sorted : StrictlyAscending items) :
    items.Nodup := by
  refine List.Pairwise.imp ?_ sorted
  intro a b before same
  rw [same, compare_self] at before
  cases before

omit [Ord α] in
theorem isLE_or_isLE (cmp : α → α → Ordering) [OrientedCmp cmp] (a b : α) :
    ((cmp a b).isLE || (cmp b a).isLE) = true := by
  have swapped : cmp b a = (cmp a b).swap := OrientedCmp.eq_swap
  rw [swapped]
  cases cmp a b <;> rfl

omit [Ord α] in
/-- Sorting by a comparison puts no item before an earlier one. -/
theorem mergeSort_pairwise_isLE (cmp : α → α → Ordering) [TransCmp cmp] (items : List α) :
    (items.mergeSort fun a b => (cmp a b).isLE).Pairwise fun a b => (cmp a b).isLE :=
  List.pairwise_mergeSort (fun _ _ _ => TransCmp.isLE_trans) (isLE_or_isLE cmp) items

omit [Ord α] in
/-- Sorting leaves items in their order where none of them comes before an earlier one. -/
theorem mergeSort_filter_of_pairwise (cmp : α → α → Ordering) [TransCmp cmp] {items : List α}
    {keep : α → Bool} (settled : (items.filter keep).Pairwise fun a b => (cmp a b).isLE) :
    (items.mergeSort fun a b => (cmp a b).isLE).filter keep = items.filter keep := by
  have inside := (List.sublist_mergeSort (fun _ _ _ => TransCmp.isLE_trans) (isLE_or_isLE cmp)
    settled List.filter_sublist).filter keep
  simp only [List.filter_filter, Bool.and_self] at inside
  refine (inside.eq_of_length ?_).symm
  exact ((List.mergeSort_perm items _).filter keep).length_eq.symm

/-- Items that are put in order, where those between which the order does not decide stay as they
stand. -/
structure StablySorted (cmp : α → α → Ordering) (items sorted : List α) : Prop where
  perm : sorted.Perm items
  ordered : sorted.Pairwise fun a b => (cmp a b).isLE
  stable : ∀ a, sorted.filter (fun b => cmp a b = .eq) = items.filter fun b => cmp a b = .eq

omit [Ord α] in
theorem mergeSort_stablySorted (cmp : α → α → Ordering) [TransCmp cmp] (items : List α) :
    StablySorted cmp items (items.mergeSort fun a b => (cmp a b).isLE) := by
  refine ⟨List.mergeSort_perm items _, mergeSort_pairwise_isLE cmp items, ?_⟩
  intro a
  refine mergeSort_filter_of_pairwise cmp (List.pairwise_of_forall_mem_list ?_)
  intro b member c member'
  have same : cmp a b = .eq := of_decide_eq_true (List.mem_filter.mp member).2
  have same' : cmp a c = .eq := of_decide_eq_true (List.mem_filter.mp member').2
  rw [TransCmp.congr_left (OrientedCmp.eq_symm same), same']
  rfl

theorem mergeSort_weaklyAscending [TransOrd α] (items : List α) :
    WeaklyAscending (items.mergeSort fun a b => (compare a b).isLE) :=
  mergeSort_pairwise_isLE compare items

/-! ## Lists without repeats -/

variable [DecidableEq α]

omit [Ord α] in
theorem dropRepeats_cons (a : α) (rest : List α) :
    dropRepeats (a :: rest) =
      if (dropRepeats rest).head? = some a then dropRepeats rest else a :: dropRepeats rest := by
  rw [dropRepeats]
  cases dropRepeats rest with
  | nil => rfl
  | cons b more => simp only [List.head?_cons, Option.some.injEq, eq_comm]

omit [Ord α] in
@[simp] theorem mem_dropRepeats (items : List α) (a : α) : a ∈ dropRepeats items ↔ a ∈ items := by
  induction items with
  | nil => simp [dropRepeats]
  | cons b rest ih =>
    rw [dropRepeats_cons]
    split
    · rename_i first
      have member : b ∈ dropRepeats rest := List.mem_of_mem_head? first
      rw [List.mem_cons, ih]
      constructor
      · exact .inr
      · rintro (rfl | later)
        · exact ih.mp member
        · exact later
    · rw [List.mem_cons, List.mem_cons, ih]

omit [Ord α] in
theorem dropRepeats_head? (items : List α) : (dropRepeats items).head? = items.head? := by
  cases items with
  | nil => rfl
  | cons b rest =>
    rw [dropRepeats_cons]
    split
    · assumption
    · rfl

/-- Where repeats stand side by side, dropping them leaves each item once. -/
theorem dropRepeats_strictlyAscending [TransOrd α] [LawfulEqOrd α] {items : List α}
    (sorted : WeaklyAscending items) : StrictlyAscending (dropRepeats items) := by
  induction items with
  | nil => exact List.Pairwise.nil
  | cons b rest ih =>
    obtain ⟨first, tail⟩ := List.pairwise_cons.mp sorted
    rw [dropRepeats_cons]
    split
    · exact ih tail
    · rename_i different
      refine List.pairwise_cons.mpr ⟨?_, ih tail⟩
      intro c member
      have atMost := first c ((mem_dropRepeats rest c).mp member)
      refine Ordering.isLE_iff_eq_lt_or_eq_eq.mp atMost |>.resolve_right ?_
      intro equal
      -- An item equal to the first one would have to stand at the head of what is left.
      have same : b = c := LawfulEqOrd.eq_of_compare equal
      subst same
      cases left : dropRepeats rest with
      | nil => rw [left] at member; cases member
      | cons d more =>
        rw [left] at member different
        have kept := ih tail
        rw [left] at kept
        rcases List.mem_cons.mp member with here | later
        · exact different (congrArg some here.symm)
        · have before := (List.pairwise_cons.mp kept).1 b later
          have after := first d ((mem_dropRepeats rest d).mp (by rw [left]; exact List.mem_cons_self))
          rw [OrientedOrd.eq_swap, before] at after
          cases after

/-! ## The ascending list of some members -/

@[simp] theorem mem_ascending (items : List α) (a : α) : a ∈ ascending items ↔ a ∈ items := by
  rw [ascending, mem_dropRepeats, List.mem_mergeSort]

variable [TransOrd α] [LawfulEqOrd α]

theorem ascending_strictlyAscending (items : List α) : StrictlyAscending (ascending items) :=
  dropRepeats_strictlyAscending (mergeSort_weaklyAscending items)

theorem ascending_nodup (items : List α) : (ascending items).Nodup :=
  strictlyAscending_nodup (ascending_strictlyAscending items)

omit [DecidableEq α] [LawfulEqOrd α] in
/-- A strictly ascending list is determined by its members. -/
theorem strictlyAscending_ext {left right : List α} (sortedLeft : StrictlyAscending left)
    (sortedRight : StrictlyAscending right) (same : ∀ a, a ∈ left ↔ a ∈ right) : left = right := by
  have perm : left.Perm right :=
    (List.perm_ext_iff_of_nodup (strictlyAscending_nodup sortedLeft)
      (strictlyAscending_nodup sortedRight)).mpr same
  refine List.Perm.eq_of_pairwise ?_ sortedLeft sortedRight perm
  intro a b _ _ before after
  exact (OrientedCmp.not_lt_of_lt before after).elim

theorem ascending_of_strictlyAscending {items : List α} (sorted : StrictlyAscending items) :
    ascending items = items :=
  strictlyAscending_ext (ascending_strictlyAscending items) sorted (mem_ascending items)

/-- The ascending list of some items depends neither on their order nor on their repeats. -/
theorem ascending_congr {items others : List α} (same : ∀ a, a ∈ items ↔ a ∈ others) :
    ascending items = ascending others := by
  refine strictlyAscending_ext (ascending_strictlyAscending _) (ascending_strictlyAscending _) ?_
  intro a
  rw [mem_ascending, mem_ascending, same]

/-- Keeping some of the items commutes with putting them in ascending order. -/
theorem ascending_filter (keep : α → Bool) (items : List α) :
    ascending (items.filter keep) = (ascending items).filter keep := by
  refine strictlyAscending_ext (ascending_strictlyAscending _)
    ((ascending_strictlyAscending items).filter keep) ?_
  intro a
  simp only [mem_ascending, List.mem_filter]

end

end TechniqueScan
