import Mathlib.Data.List.Basic
import Std.Data.HashMap.Lemmas
import TechniqueScan.Proofs.Order

/-!
Look-ups in the arrangements of an index. Values filed under keys are found again by their key, in
the order in which they were filed, and the segment table answers like the ranges it was cut from.
-/

namespace TechniqueScan

open Std

/-! ## Values filed under keys -/

section

variable {κ ν : Type} [BEq κ] [Hashable κ] [LawfulBEq κ] [LawfulHashable κ]

/-- What is found under a key is what was filed under it. -/
theorem fileUnder_getD (entries : List (κ × ν)) (k : κ) :
    (fileUnder entries).getD k [] = (entries.filter fun e => e.1 == k).map (·.2) := by
  induction entries with
  | nil => simp [fileUnder]
  | cons e rest ih =>
    rw [fileUnder, List.foldr_cons, ← fileUnder, HashMap.getD_insert, ih]
    by_cases same : e.1 = k
    · subst same
      simp [ih]
    · simp [same]

theorem mem_fileUnder_getD (entries : List (κ × ν)) (k : κ) (v : ν) :
    v ∈ (fileUnder entries).getD k [] ↔ (k, v) ∈ entries := by
  rw [fileUnder_getD, List.mem_map]
  constructor
  · rintro ⟨⟨k', v'⟩, member, rfl⟩
    obtain ⟨filed, same⟩ := List.mem_filter.mp member
    rwa [← eq_of_beq same]
  · intro filed
    exact ⟨(k, v), List.mem_filter.mpr ⟨filed, beq_self_eq_true k⟩, rfl⟩

end

/-! ## Segments -/

namespace RangeTable

private theorem eraseRepsLoop_eq {α : Type} [DecidableEq α] (a : α) (rest done : List α) :
    List.eraseRepsBy.loop (· == ·) a rest done = done.reverse ++ dropRepeats (a :: rest) := by
  induction rest generalizing a done with
  | nil => simp [List.eraseRepsBy.loop, dropRepeats]
  | cons b rest ih =>
    rw [dropRepeats_cons, dropRepeats_head?, List.head?_cons]
    by_cases same : a = b
    · subst same
      simp [List.eraseRepsBy.loop, ih]
    · have differs : (a == b) = false := beq_eq_false_iff_ne.mpr same
      simp [List.eraseRepsBy.loop, ih, differs, Ne.symm same]

theorem eraseReps_eq_dropRepeats {α : Type} [DecidableEq α] (items : List α) :
    items.eraseReps = dropRepeats items := by
  cases items with
  | nil => rfl
  | cons a rest => exact eraseRepsLoop_eq a rest []

/-- The numbers at which the set of ranges that hold a number may change. -/
def turningPoints (ranges : List ClauseRange) : List UInt64 :=
  ranges.flatMap fun r => r.first :: (if r.last = UInt64.ofNat (1 <<< 64 - 1) then [] else [r.last + 1])

theorem breakpoints_eq_ascending (ranges : List ClauseRange) :
    breakpoints ranges = ascending (turningPoints ranges) := by
  have orders : (fun a b : UInt64 => decide (a ≤ b)) = fun a b => (compare a b).isLE := by
    funext a b
    rw [Bool.eq_iff_iff, decide_eq_true_iff, isLE_compare]
  rw [breakpoints, eraseReps_eq_dropRepeats, ascending, orders]
  rfl

theorem first_mem_breakpoints {ranges : List ClauseRange} {r : ClauseRange} (member : r ∈ ranges) :
    r.first ∈ breakpoints ranges := by
  rw [breakpoints_eq_ascending, mem_ascending]
  exact List.mem_flatMap.mpr ⟨r, member, List.mem_cons_self⟩

theorem after_mem_breakpoints {ranges : List ClauseRange} {r : ClauseRange} (member : r ∈ ranges)
    (notLast : r.last ≠ UInt64.ofNat (1 <<< 64 - 1)) : r.last + 1 ∈ breakpoints ranges := by
  rw [breakpoints_eq_ascending, mem_ascending]
  exact List.mem_flatMap.mpr ⟨r, member, by rw [if_neg notLast]; simp⟩

/-- A bound that separates the segments that begin at or before a number from the others. -/
def Separates (t : Array Segment) (n : UInt64) (k : Nat) : Prop :=
  k ≤ t.size ∧ (∀ i s, i < k → t[i]? = some s → s.first ≤ n) ∧
    ∀ i s, k ≤ i → t[i]? = some s → n < s.first

/-- The search ends at a bound that separates if its two bounds enclose one. -/
theorem countUpTo_separates {t : Array Segment} {n : UInt64}
    (sorted : ∀ (i j : Nat) (s s' : Segment), i ≤ j → t[i]? = some s → t[j]? = some s' →
      s.first ≤ s'.first)
    {lo hi : Nat} (ordered : lo ≤ hi) (inside : hi ≤ t.size)
    (below : ∀ i s, i < lo → t[i]? = some s → s.first ≤ n)
    (above : ∀ i s, hi ≤ i → t[i]? = some s → n < s.first) :
    Separates t n (countUpTo t n lo hi) := by
  fun_induction countUpTo t n lo hi with
  | case1 lo hi open_ mid missing =>
    have midInside : mid < t.size := by omega
    rw [Array.getElem?_eq_getElem midInside] at missing
    cases missing
  | case2 lo hi open_ mid s found small ih =>
    refine ih (by omega) inside ?_ above
    intro i s' before found'
    exact UInt64.le_trans (sorted i mid s' s (Nat.le_of_lt_succ before) found' found) small
  | case3 lo hi open_ mid s found large ih =>
    refine ih (by omega) (by omega) below ?_
    intro i s' after found'
    exact UInt64.lt_of_lt_of_le (UInt64.not_le.mp large) (sorted mid i s s' after found found')
  | case4 lo hi closed =>
    have same : lo = hi := by omega
    subst same
    exact ⟨inside, below, above⟩

theorem build_getElem? (ranges : List ClauseRange) (i : Nat) :
    (build ranges)[i]? = ((breakpoints ranges)[i]?).map fun p => ⟨p, clausesAt ranges p⟩ := by
  rw [build, List.getElem?_toArray, List.getElem?_map]

theorem build_getElem?_of_breakpoint {ranges : List ClauseRange} {i : Nat} {p : UInt64}
    (found : (breakpoints ranges)[i]? = some p) :
    (build ranges)[i]? = some ⟨p, clausesAt ranges p⟩ := by
  rw [build_getElem?, found]
  rfl

theorem build_sorted (ranges : List ClauseRange) (i j : Nat) (s s' : Segment) (ordered : i ≤ j)
    (found : (build ranges)[i]? = some s) (found' : (build ranges)[j]? = some s') :
    s.first ≤ s'.first := by
  rw [build_getElem?] at found found'
  obtain ⟨p, at_i, rfl⟩ := Option.map_eq_some_iff.mp found
  obtain ⟨q, at_j, rfl⟩ := Option.map_eq_some_iff.mp found'
  obtain ⟨inside, rfl⟩ := List.getElem?_eq_some_iff.mp at_i
  obtain ⟨inside', rfl⟩ := List.getElem?_eq_some_iff.mp at_j
  rcases Nat.lt_or_eq_of_le ordered with before | rfl
  · have sorted := ascending_strictlyAscending (turningPoints ranges)
    rw [← breakpoints_eq_ascending] at sorted
    have less := List.pairwise_iff_getElem.mp sorted i j inside inside' before
    exact UInt64.le_of_lt (compare_eq_lt.mp less)
  · exact UInt64.le_refl _

/-- Between two neighbouring breakpoints the ranges that hold a number do not change. -/
theorem contains_iff_of_last_breakpoint {ranges : List ClauseRange} {p n : UInt64} (low : p ≤ n)
    (last : ∀ q ∈ breakpoints ranges, q ≤ n → q ≤ p) {r : ClauseRange} (member : r ∈ ranges) :
    r.contains n ↔ r.contains p := by
  simp only [ClauseRange.contains, Bool.and_eq_true, decide_eq_true_eq]
  constructor
  · rintro ⟨fromFirst, toLast⟩
    exact ⟨last _ (first_mem_breakpoints member) fromFirst, UInt64.le_trans low toLast⟩
  · rintro ⟨fromFirst, toLast⟩
    refine ⟨UInt64.le_trans fromFirst low, ?_⟩
    by_contra beyond
    have beyond := UInt64.not_le.mp beyond
    -- The range would have ended between the breakpoint and the number.
    have notLast : r.last ≠ UInt64.ofNat (1 <<< 64 - 1) := by
      intro greatest
      have bound := n.toNat_lt
      rw [greatest, UInt64.lt_iff_toNat_lt] at beyond
      have value : (UInt64.ofNat (1 <<< 64 - 1)).toNat = 2 ^ 64 - 1 := by decide
      omega
    have step : (r.last + 1).toNat = r.last.toNat + 1 := by
      have bound := n.toNat_lt
      rw [UInt64.lt_iff_toNat_lt] at beyond
      rw [UInt64.toNat_add]
      simp
      omega
    have ended := last _ (after_mem_breakpoints member notLast)
      (by rw [UInt64.le_iff_toNat_le, step]; rw [UInt64.lt_iff_toNat_lt] at beyond; omega)
    rw [UInt64.le_iff_toNat_le] at ended toLast
    omega

/-- Every breakpoint has a segment, so a bound that separates segments also divides breakpoints. -/
theorem Separates.breakpoint_below {ranges : List ClauseRange} {n : UInt64} {k : Nat}
    (separates : Separates (build ranges) n k) {q : UInt64} (member : q ∈ breakpoints ranges)
    (small : q ≤ n) : ∃ i, i < k ∧ (breakpoints ranges)[i]? = some q := by
  obtain ⟨_, _, above⟩ := separates
  obtain ⟨i, found⟩ := List.mem_iff_getElem?.mp member
  refine ⟨i, ?_, found⟩
  by_contra after
  have large := above i ⟨q, clausesAt ranges q⟩ (by omega) (build_getElem?_of_breakpoint found)
  exact UInt64.not_le.mpr large small

/-- Below the first breakpoint there is no range. -/
theorem Separates.clausesAt_zero {ranges : List ClauseRange} {n : UInt64}
    (separates : Separates (build ranges) n 0) : clausesAt ranges n = [] := by
  have none_ : ranges.filter (·.contains n) = [] := by
    rw [List.filter_eq_nil_iff]
    intro r member holds
    simp only [ClauseRange.contains, Bool.and_eq_true, decide_eq_true_eq] at holds
    obtain ⟨i, before, _⟩ := separates.breakpoint_below (first_mem_breakpoints member) holds.1
    omega
  simp [clausesAt, none_]

/-- The last breakpoint at or before a number lies in the same ranges as the number. -/
theorem Separates.clausesAt_succ {ranges : List ClauseRange} {n p : UInt64} {k : Nat}
    (separates : Separates (build ranges) n (k + 1)) (found : (breakpoints ranges)[k]? = some p) :
    clausesAt ranges n = clausesAt ranges p := by
  have placed := build_getElem?_of_breakpoint found
  have low : p ≤ n := separates.2.1 k _ (by omega) placed
  have last : ∀ q ∈ breakpoints ranges, q ≤ n → q ≤ p := by
    intro q member small
    obtain ⟨i, before, found'⟩ := separates.breakpoint_below member small
    exact build_sorted ranges i k _ _ (by omega) (build_getElem?_of_breakpoint found') placed
  have same : ranges.filter (·.contains n) = ranges.filter (·.contains p) := by
    refine List.filter_congr fun r member => ?_
    rw [Bool.eq_iff_iff]
    exact contains_iff_of_last_breakpoint low last member
  simp [clausesAt, same]

/-- A look-up in the segments of some ranges finds the clauses of the ranges that hold the number. -/
theorem lookup_build (ranges : List ClauseRange) (n : UInt64) :
    lookup (build ranges) n = clausesAt ranges n := by
  have separates := countUpTo_separates (n := n) (build_sorted ranges)
    (Nat.zero_le (build ranges).size) (Nat.le_refl _)
    (fun i s before _ => (Nat.not_lt_zero i before).elim)
    (fun i s after found => by
      obtain ⟨inside, _⟩ := Array.getElem?_eq_some_iff.mp found
      omega)
  rw [lookup]
  generalize countUpTo (build ranges) n 0 (build ranges).size = k at separates
  cases k with
  | zero => exact separates.clausesAt_zero.symm
  | succ k =>
    dsimp only
    have inside := separates.1
    have size : (build ranges).size = (breakpoints ranges).length := by simp [build]
    cases found : (breakpoints ranges)[k]? with
    | none =>
      rw [List.getElem?_eq_none_iff] at found
      omega
    | some p =>
      rw [build_getElem?_of_breakpoint found, separates.clausesAt_succ found]
      rfl

end RangeTable

end TechniqueScan
