import TechniqueScan.Regex.CharClass

/-!
Regular expressions and where they match. A subject of `n` characters has `n + 1` positions, and
an expression leads from a set of positions to the set of positions behind what it consumes. Sets
of positions are kept as the bits of a number.
-/

namespace TechniqueScan.Regex

open Text

/-- A condition on a position that consumes nothing. -/
inductive Look where
  | textStart | textEnd
  /-- The beginning or end of a line; carriage returns may be part of its end. -/
  | lineStart (returns : Bool)
  | lineEnd (returns : Bool)
  | wordBoundary (unicode : Bool)
  | noWordBoundary (unicode : Bool)
  | wordStart (unicode : Bool)
  | wordEnd (unicode : Bool)
  | wordStartHalf (unicode : Bool)
  | wordEndHalf (unicode : Bool)
  deriving DecidableEq, Repr

/-- A regular expression. -/
inductive Expr where
  | empty
  | set (s : CharSet)
  | look (l : Look)
  | concat (a b : Expr)
  | either (a b : Expr)
  /-- At least `least` times, at most `most` times if there is a bound. -/
  | repeated (a : Expr) (least : Nat) (most : Option Nat)
  deriving Inhabited

/-- A text to search in. -/
structure Subject where
  chars : Array Char

namespace Subject

def size (s : Subject) : Nat := s.chars.size

/-- All positions. -/
def everywhere (s : Subject) : Nat := 1 <<< (s.size + 1) - 1

/-- The positions that satisfy a test on the characters before and after them. -/
def positions (s : Subject) (test : Option Char → Option Char → Bool) : Nat :=
  (List.range (s.size + 1)).foldl (fun set i =>
    let before := if i = 0 then none else s.chars[i - 1]?
    if test before s.chars[i]? then set ||| (1 <<< i) else set) 0

/-- The positions before a character of a set. -/
def before (s : Subject) (set : CharSet) : Nat :=
  s.positions fun _ after => after.any set.contains

end Subject

/-- The characters of words, of ASCII or of all scripts. -/
def isWordChar (unicode : Bool) (c : Char) : Bool :=
  if unicode && 0x80 ≤ c.toNat then wordChars.contains c else c.isAlphanum || c == '_'

/-- Whether a condition holds between two characters. -/
def Look.holds (l : Look) (before after : Option Char) : Bool :=
  let word (unicode : Bool) (c? : Option Char) : Bool := c?.any (isWordChar unicode)
  match l with
  | .textStart => before.isNone
  | .textEnd => after.isNone
  | .lineStart false => before.isNone || before == some '\n'
  | .lineEnd false => after.isNone || after == some '\n'
  | .lineStart true =>
    before.isNone || before == some '\n' || (before == some '\r' && after != some '\n')
  | .lineEnd true =>
    after.isNone || after == some '\r' || (after == some '\n' && before != some '\r')
  | .wordBoundary u => word u before != word u after
  | .noWordBoundary u => word u before == word u after
  | .wordStart u => !word u before && word u after
  | .wordEnd u => word u before && !word u after
  | .wordStartHalf u => !word u before
  | .wordEndHalf u => !word u after

/-- Applies a step to a set of positions some times, or until it no longer changes the set. -/
def stepTimes (step : Nat → Nat) : (times : Nat) → Nat → Nat
  | 0, here => here
  | times + 1, here =>
    let next := step here
    if next = here then here else stepTimes step times next

/-- The positions reached by at most some steps. -/
def stepUpTo (step : Nat → Nat) : (times : Nat) → Nat → Nat
  | 0, here => here
  | times + 1, here =>
    let next := here ||| step here
    if next = here then here else stepUpTo step times next

/-- The positions behind what an expression consumes from a set of positions on. -/
def Expr.run (s : Subject) : Expr → Nat → Nat
  | .empty, here => here
  | .set cs, here => if here = 0 then 0 else (here &&& s.before cs) <<< 1
  | .look l, here => if here = 0 then 0 else here &&& s.positions l.holds
  | .concat a b, here => b.run s (a.run s here)
  | .either a b, here => a.run s here ||| b.run s here
  | .repeated a least most, here =>
    let start := stepTimes (a.run s) least here
    match most with
    | some most => stepUpTo (a.run s) (most - least) start
    | none => stepUpTo (a.run s) (s.size + 1) start

/-- Whether an expression matches anywhere in a text. -/
def Expr.matchesIn (e : Expr) (text : String) : Bool :=
  let s : Subject := ⟨text.toList.toArray⟩
  e.run s s.everywhere != 0

end TechniqueScan.Regex
