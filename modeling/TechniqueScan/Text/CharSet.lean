/-!
Sets of characters, kept as ascending disjoint ranges of code points so that a look-up is a
binary search.
-/

namespace TechniqueScan.Text

/-- The value of a hexadecimal digit of either case. -/
def hexDigitValue? (c : Char) : Option Nat :=
  if '0' ≤ c ∧ c ≤ '9' then some (c.toNat - 48)
  else if 'a' ≤ c ∧ c ≤ 'f' then some (c.toNat - 87)
  else if 'A' ≤ c ∧ c ≤ 'F' then some (c.toNat - 55)
  else none

/-- Reads hexadecimal digits, every other character counting as nothing. -/
def hexValue (s : String) : Nat :=
  s.foldl (fun n c => match hexDigitValue? c with
    | some d => 16 * n + d
    | none => n) 0

/-- The words between blanks and line ends. -/
def blankSeparated (s : String) : List String :=
  ((s.toList.splitBy fun c d => c.isWhitespace == d.isWhitespace).filter
    fun w => !w.all Char.isWhitespace).map String.ofList

/-- A set of code points as ascending, disjoint, inclusive ranges. -/
structure CharSet where
  ranges : Array (Nat × Nat)
  deriving Inhabited

namespace CharSet

/-- Reads blank-separated code points `5f` and ranges `30-39`, written in hexadecimal. -/
def ofHex (s : String) : CharSet :=
  let range (word : String) : Nat × Nat :=
    match word.splitOn "-" with
    | [a, b] => (hexValue a, hexValue b)
    | _ => (hexValue word, hexValue word)
  ⟨((blankSeparated s).map range).toArray⟩

/-- Whether one of the ranges with index from `lo` up to `hi` holds the code point. -/
def searchIn (ranges : Array (Nat × Nat)) (n lo hi : Nat) : Bool :=
  if lo < hi then
    let mid := (lo + hi) / 2
    match ranges[mid]? with
    | none => false
    | some (first, last) =>
      if n < first then searchIn ranges n lo mid
      else if last < n then searchIn ranges n (mid + 1) hi
      else true
  else false
termination_by hi - lo

/-- Whether a code point is in the set. -/
def containsCode (s : CharSet) (n : Nat) : Bool := searchIn s.ranges n 0 s.ranges.size

/-- Whether a character is in the set. -/
def contains (s : CharSet) (c : Char) : Bool := s.containsCode c.toNat

end CharSet

end TechniqueScan.Text
