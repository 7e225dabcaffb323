/-!
Ranges of numbers cut into segments. On a segment the set of ranges that hold a number does not
change, so all of them are found by searching for the segment.
-/

namespace TechniqueScan

/-- Where a clause stands: the position of its signature, and its position in the signature. -/
structure ClauseRef where
  signature : Nat
  clause : Nat
  deriving DecidableEq, Repr, Inhabited, Hashable

instance : Ord ClauseRef := ⟨compareLex (compareOn (·.signature)) (compareOn (·.clause))⟩

/-- An inclusive range of numbers and the clause that asks for it. -/
structure ClauseRange where
  first : UInt64
  last : UInt64
  clause : ClauseRef
  deriving DecidableEq, Repr

def ClauseRange.contains (r : ClauseRange) (n : UInt64) : Bool := r.first ≤ n && n ≤ r.last

/-- The clauses whose ranges hold a number, in ascending order. -/
def clausesAt (ranges : List ClauseRange) (n : UInt64) : List ClauseRef :=
  ((ranges.filter (·.contains n)).map (·.clause)).mergeSort fun a b => (compare a b).isLE

/-- A segment: where it begins, and the clauses whose ranges cover it. -/
structure Segment where
  first : UInt64
  clauses : List ClauseRef
  deriving DecidableEq, Repr

/-- Segments in ascending order, each reaching up to the next. -/
abbrev RangeTable : Type := Array Segment

namespace RangeTable

/-- The numbers at which some range begins or has just ended, in ascending order, each once. -/
def breakpoints (ranges : List ClauseRange) : List UInt64 :=
  let points := ranges.flatMap fun r =>
    r.first :: (if r.last = UInt64.ofNat (1 <<< 64 - 1) then [] else [r.last + 1])
  (points.mergeSort fun a b => a ≤ b).eraseReps

/-- Cuts ranges into segments. -/
def build (ranges : List ClauseRange) : RangeTable :=
  ((breakpoints ranges).map fun p => ⟨p, clausesAt ranges p⟩).toArray

/-- The number of segments that begin at or before a number, searched between two bounds. -/
def countUpTo (t : Array Segment) (n : UInt64) (lo hi : Nat) : Nat :=
  if lo < hi then
    let mid := (lo + hi) / 2
    match t[mid]? with
    | none => lo
    | some s => if s.first ≤ n then countUpTo t n (mid + 1) hi else countUpTo t n lo mid
  else lo
termination_by hi - lo

/-- The clauses of the segment that a number lies in. -/
def lookup (t : RangeTable) (n : UInt64) : List ClauseRef :=
  match countUpTo t n 0 t.size with
  | 0 => []
  | k + 1 => (t[k]?.map (·.clauses)).getD []

end RangeTable

end TechniqueScan
