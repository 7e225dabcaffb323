import TechniqueScan.Proofs.Scan.Clauses

/-!
Numbers looked up in segments instead of ranges. A number lies in the same ranges as the beginning of its
segment, so one search answers for all ranges, and an index names the clauses that hold a number.
-/

namespace TechniqueScan

open Std

namespace RangeTable

theorem build_ascends (ranges : List ClauseRange) :
    (build ranges).toList.Pairwise fun s later => s.first < later.first := by
  have sorted := ascending_strictlyAscending (turningPoints ranges)
  rw [← breakpoints_eq_ascending] at sorted
  rw [build, List.pairwise_map]
  exact sorted.imp fun before => compare_eq_lt.mp before

/-- Up to the next segment, no breakpoint lies behind the beginning of a segment. -/
theorem breakpoint_le_of_lt_next {ranges : List ClauseRange} {i : Nat} {s : Segment} {n : UInt64}
    (placed : (build ranges)[i]? = some s)
    (beforeNext : ∀ next, (build ranges)[i + 1]? = some next → n < next.first) :
    ∀ q ∈ breakpoints ranges, q ≤ n → q ≤ s.first := by
  intro q member small
  obtain ⟨j, found⟩ := List.mem_iff_getElem?.mp member
  have placed' := build_getElem?_of_breakpoint found
  rcases Nat.lt_or_ge i j with after | notAfter
  · -- The segment of such a breakpoint would not begin before the next one.
    obtain ⟨inside, _⟩ := Array.getElem?_eq_some_iff.mp placed'
    have next := Array.getElem?_eq_getElem (show i + 1 < (build ranges).size by omega)
    have notBefore := build_sorted ranges (i + 1) j _ _ after next placed'
    exact absurd small (UInt64.not_le.mpr (UInt64.lt_of_lt_of_le (beforeNext _ next) notBefore))
  · exact build_sorted ranges j i _ _ notAfter placed' placed

theorem build_constant {ranges : List ClauseRange} {i : Nat} {s : Segment} {n : UInt64}
    (placed : (build ranges)[i]? = some s) (low : s.first ≤ n)
    (beforeNext : ∀ next, (build ranges)[i + 1]? = some next → n < next.first) {r : ClauseRange}
    (member : r ∈ ranges) : r.contains n = r.contains s.first := by
  rw [Bool.eq_iff_iff]
  exact contains_iff_of_last_breakpoint low (breakpoint_le_of_lt_next placed beforeNext) member

/-- What a table of segments tells of the ranges that it was cut from. -/
structure Answers (ranges : List ClauseRange) : Prop where
  /-- Each segment begins behind the one before it. -/
  ascends : (build ranges).toList.Pairwise fun s later => s.first < later.first
  /-- Up to the next segment, every number lies in the ranges in which the segment begins. -/
  constant : ∀ i s, (build ranges)[i]? = some s → ∀ n, s.first ≤ n →
    (∀ next, (build ranges)[i + 1]? = some next → n < next.first) →
      ∀ r ∈ ranges, r.contains n = r.contains s.first
  /-- A number finds one reference for each range that holds it. -/
  finds : ∀ n, (lookup (build ranges) n).Perm ((ranges.filter (·.contains n)).map (·.clause))
  sorted : ∀ n, (lookup (build ranges) n).Pairwise fun a b => (compare a b).isLE

theorem build_answers (ranges : List ClauseRange) : Answers ranges where
  ascends := build_ascends ranges
  constant _ _ placed _ low beforeNext _ member := build_constant placed low beforeNext member
  finds n := by
    rw [lookup_build, clausesAt]
    exact List.mergeSort_perm _ _
  sorted n := by
    rw [lookup_build, clausesAt]
    exact mergeSort_pairwise_isLE compare _

end RangeTable

namespace SignatureIndex

variable {α : Type}

/-- Ranges are answered for by their segments, and an index names exactly the clauses on numbers that
hold a number. -/
theorem numbers_answered (category : Category) (signatures : List (Signature α))
    (ranges : List ClauseRange) :
    RangeTable.Answers ranges ∧ ∀ n place, place ∈ (build category signatures).numberClauses n ↔
      ∃ s p, signatures[place.signature]? = some s ∧ s.clauses[place.clause]? = some (.numbers p) ∧
        p.contains n := by
  refine ⟨RangeTable.build_answers ranges, fun n place => ?_⟩
  rw [mem_numberClauses]
  constructor
  · rintro ⟨p, placed, accepted⟩
    obtain ⟨s, listed, inside⟩ := (mem_placedClauses p place).mp placed
    cases p with
    | numbers p => exact ⟨s, p, listed, inside, accepted⟩
    | _ => cases accepted
  · rintro ⟨s, p, listed, inside, holds⟩
    exact ⟨.numbers p, (mem_placedClauses _ place).mpr ⟨s, listed, inside⟩, holds⟩

end SignatureIndex

end TechniqueScan
