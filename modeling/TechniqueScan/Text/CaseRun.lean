import TechniqueScan.Text.CharSet

/-!
Runs of characters that are mapped to other characters in the same order, as the cases of many
alphabets are.
-/

namespace TechniqueScan.Text

/-- A run of code points at equal distances, and what its first one is mapped to. -/
structure CaseRun where
  first : Nat
  last : Nat
  stride : Nat
  target : Nat
  deriving DecidableEq, Repr, Inhabited

namespace CaseRun

/-- Whether a code point belongs to a run. -/
def contains (r : CaseRun) (n : Nat) : Bool :=
  r.first ≤ n && n ≤ r.last && (n - r.first) % r.stride = 0

/-- What a code point of a run is mapped to. -/
def apply (r : CaseRun) (n : Nat) : Nat := r.target + (n - r.first)

/-- Reads `first-last/stride>target`; a run of one is `first>target`. -/
def read (word : String) : CaseRun :=
  let (run, target) := match word.splitOn ">" with
    | [run, target] => (run, hexValue target)
    | _ => (word, 0)
  let (ends, stride) := match run.splitOn "/" with
    | [ends, stride] => (ends, hexValue stride)
    | _ => (run, 1)
  match ends.splitOn "-" with
  | [first, last] => ⟨hexValue first, hexValue last, stride, target⟩
  | _ => ⟨hexValue ends, hexValue ends, stride, target⟩

/-- Reads runs between blanks. -/
def readAll (s : String) : List CaseRun := (blankSeparated s).map read

end CaseRun

end TechniqueScan.Text
