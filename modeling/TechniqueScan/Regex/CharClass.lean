import TechniqueScan.Text.CaseFold
import TechniqueScan.Text.CharProperty
import TechniqueScan.Text.CharSet
import TechniqueScan.Text.GeneralCategory
import TechniqueScan.Text.Script
import TechniqueScan.Text.Word

/-!
Character classes of regular expressions: sets of code points closed under union, intersection,
complement and the ignoring of case, and the named classes they are built from.
-/

namespace TechniqueScan.Regex

open Text

/-- A set of code points as inclusive ranges, ascending and not touching one another. -/
structure CharClass where
  ranges : List (Nat × Nat)
  deriving DecidableEq, Repr, Inhabited

namespace CharClass

/-- The greatest code point. -/
def lastCode : Nat := 0x10ffff

/-- Adds a range to ranges in descending order of which none begins behind it. -/
def pushRange (rs : List (Nat × Nat)) (r : Nat × Nat) : List (Nat × Nat) :=
  match rs with
  | (a, b) :: more => if r.1 ≤ b + 1 then (a, Nat.max b r.2) :: more else r :: rs
  | [] => [r]

/-- The class of all code points in some ranges. -/
def ofRanges (rs : List (Nat × Nat)) : CharClass :=
  let sorted := (rs.filter fun (a, b) => a ≤ b).mergeSort fun x y => x.1 ≤ y.1
  ⟨(sorted.foldl pushRange []).reverse⟩

def ofSet (s : CharSet) : CharClass := ofRanges s.ranges.toList

def toSet (c : CharClass) : CharSet := ⟨c.ranges.toArray⟩

def single (n : Nat) : CharClass := ⟨[(n, n)]⟩

def empty : CharClass := ⟨[]⟩

def contains (c : CharClass) (n : Nat) : Bool := c.ranges.any fun (a, b) => a ≤ n && n ≤ b

def union (c d : CharClass) : CharClass := ofRanges (c.ranges ++ d.ranges)

/-- The gaps between ranges from a code point on, up to a last one. -/
def gaps (last : Nat) : (start : Nat) → List (Nat × Nat) → List (Nat × Nat)
  | start, [] => if start ≤ last then [(start, last)] else []
  | start, (a, b) :: rest =>
    if start < a then (start, a - 1) :: gaps last (b + 1) rest else gaps last (b + 1) rest

/-- The code points up to a last one that are not in the class. -/
def complement (last : Nat) (c : CharClass) : CharClass := ⟨gaps last 0 c.ranges⟩

def inter (c d : CharClass) : CharClass :=
  ofRanges (c.ranges.flatMap fun (a, b) =>
    d.ranges.map fun (a', b') => (Nat.max a a', Nat.min b b'))

def diff (c d : CharClass) : CharClass := c.inter (d.complement lastCode)

def symmetricDiff (c d : CharClass) : CharClass := (c.union d).diff (c.inter d)

/-- The code points of a run that are in the class. -/
def runMembers (c : CharClass) (r : CaseRun) : List Nat :=
  c.ranges.flatMap fun (a, b) =>
    let low := Nat.max a r.first
    let high := Nat.min b r.last
    ((List.range (high + 1 - low)).map (low + ·)).filter r.contains

/-- The class with all other cases of its code points. -/
def ignoringCase (c : CharClass) : CharClass :=
  let others := foldRuns.flatMap fun r => (c.runMembers r).flatMap otherCases
  if others.isEmpty then c else ofRanges (c.ranges ++ others.map fun n => (n, n))

/-- Whether the class holds ASCII characters alone. -/
def isAscii (c : CharClass) : Bool := c.ranges.all fun (_, b) => b < 0x80

/-! ## Named classes -/

/-- Decimal digits, of ASCII or of all scripts. -/
def digits (unicode : Bool) : CharClass :=
  if unicode then ofSet digitChars else ⟨[(0x30, 0x39)]⟩

/-- White space. -/
def spaces (unicode : Bool) : CharClass :=
  if unicode then
    ⟨[(0x9, 0xd), (0x20, 0x20), (0x85, 0x85), (0xa0, 0xa0), (0x1680, 0x1680), (0x2000, 0x200a),
      (0x2028, 0x2029), (0x202f, 0x202f), (0x205f, 0x205f), (0x3000, 0x3000)]⟩
  else ⟨[(0x9, 0xd), (0x20, 0x20)]⟩

/-- The characters of words. -/
def words (unicode : Bool) : CharClass :=
  if unicode then ofSet wordChars
  else ⟨[(0x30, 0x39), (0x41, 0x5a), (0x5f, 0x5f), (0x61, 0x7a)]⟩

/-- The classes of ASCII characters that have a name between colons. -/
def asciiNamed? (name : String) : Option CharClass :=
  match name with
  | "alnum" => some ⟨[(0x30, 0x39), (0x41, 0x5a), (0x61, 0x7a)]⟩
  | "alpha" => some ⟨[(0x41, 0x5a), (0x61, 0x7a)]⟩
  | "ascii" => some ⟨[(0x0, 0x7f)]⟩
  | "blank" => some ⟨[(0x9, 0x9), (0x20, 0x20)]⟩
  | "cntrl" => some ⟨[(0x0, 0x1f), (0x7f, 0x7f)]⟩
  | "digit" => some ⟨[(0x30, 0x39)]⟩
  | "graph" => some ⟨[(0x21, 0x7e)]⟩
  | "lower" => some ⟨[(0x61, 0x7a)]⟩
  | "print" => some ⟨[(0x20, 0x7e)]⟩
  | "punct" => some ⟨[(0x21, 0x2f), (0x3a, 0x40), (0x5b, 0x60), (0x7b, 0x7e)]⟩
  | "space" => some ⟨[(0x9, 0xd), (0x20, 0x20)]⟩
  | "upper" => some ⟨[(0x41, 0x5a)]⟩
  | "word" => some (words false)
  | "xdigit" => some ⟨[(0x30, 0x39), (0x41, 0x46), (0x61, 0x66)]⟩
  | _ => none

/-- The code points filed under a name in a table. -/
def lookup? (table : List (List String × String)) (name : String) : Option CharClass :=
  (table.find? fun (names, _) => names.contains name).map fun (_, ranges) =>
    ofSet (CharSet.ofHex ranges)

/-- All assigned code points. -/
def assigned : CharClass :=
  ofRanges (generalCategories.flatMap fun (_, ranges) => (CharSet.ofHex ranges).ranges.toList)

/-- A general category, or a group of them. -/
def category? (name : String) : Option CharClass :=
  match name with
  | "any" => some ⟨[(0, lastCode)]⟩
  | "ascii" => some ⟨[(0, 0x7f)]⟩
  | "assigned" => some assigned
  | "cn" | "unassigned" => some (assigned.complement lastCode)
  | "c" | "other" =>
    ["cc", "cf", "co"].foldlM (fun c n => (lookup? generalCategories n).map c.union)
      (assigned.complement lastCode)
  | "cs" | "surrogate" => some empty
  | _ =>
    match categoryGroups.find? fun (names, _) => names.contains name with
    | some (_, members) =>
      members.foldlM (fun c n => (lookup? generalCategories n).map c.union) empty
    | none => lookup? generalCategories name

def script? (name : String) : Option CharClass := lookup? scripts name

/-- The name of a property without case, separators and a leading "is". -/
def looseName (name : List Char) : String :=
  let lowered := name.map Char.toLower
  let (body, hadIs) := match lowered with
    | 'i' :: 's' :: rest => (rest, true)
    | _ => (lowered, false)
  let kept := body.filter fun c => c != ' ' && c != '_' && c != '-' && c.toNat < 0x80
  if hadIs && kept == ['c'] then "isc" else String.ofList kept

/-- The class that a single name stands for: a property, a general category or a script. -/
def named? (name : List Char) : Option CharClass :=
  let loose := looseName name
  let property? := if ["cf", "sc", "lc"].contains loose then none else lookup? charProperties loose
  property? <|> category? loose <|> script? loose

/-- The class of the code points that have a value of a property. -/
def valued? (property value : List Char) : Option CharClass :=
  let loose := looseName value
  match looseName property with
  | "generalcategory" | "gc" => category? loose
  | "script" | "sc" | "scriptextensions" | "scx" => script? loose
  | _ => none

end CharClass

end TechniqueScan.Regex
