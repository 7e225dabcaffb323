import TechniqueScan.Document.Value

/-!
The types that a scalar written without quotes can be read as: null, truth values, whole numbers
in four radices, and decimal numbers. A number with a leading zero is none of them.
-/

namespace TechniqueScan.Document

/-- The words for null. -/
def isNullWord (s : String) : Bool := s = "null" || s = "Null" || s = "NULL" || s = "~"

/-- The words for truth values. -/
def boolWord? (s : String) : Option Bool :=
  if s = "true" ∨ s = "True" ∨ s = "TRUE" then some true
  else if s = "false" ∨ s = "False" ∨ s = "FALSE" then some false
  else none

/-- The value of a digit in a radix of at most sixteen. -/
def digitIn? (radix : Nat) (c : Char) : Option Nat :=
  let value :=
    if '0' ≤ c ∧ c ≤ '9' then c.toNat - 48
    else if 'a' ≤ c ∧ c ≤ 'f' then c.toNat - 87
    else if 'A' ≤ c ∧ c ≤ 'F' then c.toNat - 55
    else radix
  if value < radix then some value else none

/-- A number of one or more digits; any other character spoils it. -/
def digits? (radix : Nat) (cs : List Char) : Option Nat :=
  if cs.isEmpty then none
  else cs.foldlM (fun n c => (digitIn? radix c).map (radix * n + ·)) 0

/-- Several digits that start with a zero, a sign aside. -/
def hasLeadingZero (cs : List Char) : Bool :=
  let unsigned := match cs with
    | '-' :: rest | '+' :: rest => rest
    | _ => cs
  unsigned.length > 1 && unsigned.head? == some '0' && unsigned.all Char.isDigit

/-- A magnitude: hexadecimal, octal or binary after a mark, or decimal. -/
def magnitude? (cs : List Char) : Option Nat :=
  match cs with
  | '0' :: 'x' :: rest => digits? 16 rest
  | '0' :: 'o' :: rest => digits? 8 rest
  | '0' :: 'b' :: rest => digits? 2 rest
  | _ => if hasLeadingZero cs then none else digits? 10 cs

/-- A whole number, as far as 128 bits hold it. -/
def integerWord? (cs : List Char) : Option Int :=
  match cs with
  | '-' :: rest => (magnitude? rest).bind fun n => if n ≤ 1 <<< 127 then some (-(n : Int)) else none
  | '+' :: rest => (magnitude? rest).bind fun n => if n < 1 <<< 128 then some (n : Int) else none
  | _ => (magnitude? cs).bind fun n => if n < 1 <<< 128 then some (n : Int) else none

/-- The parts of a decimal number: digits, how many of them are places, and the exponent. -/
structure DecimalParts where
  digits : Nat
  places : Nat
  exponent : Int

/-- Digits with at most one point among them, and at least one digit. -/
def mantissa? (cs : List Char) : Option (Nat × Nat) :=
  let whole := cs.takeWhile Char.isDigit
  let rest := cs.dropWhile Char.isDigit
  let value (ds : List Char) : Nat := ds.foldl (fun n c => 10 * n + (c.toNat - 48)) 0
  match rest with
  | [] => if whole.isEmpty then none else some (value whole, 0)
  | '.' :: fraction =>
    if fraction.all Char.isDigit && !(whole.isEmpty && fraction.isEmpty) then
      some (value (whole ++ fraction), fraction.length)
    else none
  | _ => none

/-- A decimal number without a sign: a mantissa, and an exponent if it has one. -/
def decimalParts? (cs : List Char) : Option DecimalParts :=
  let isMark (c : Char) : Bool := c == 'e' || c == 'E'
  let front := cs.takeWhile fun c => !isMark c
  let back := cs.dropWhile fun c => !isMark c
  (mantissa? front).bind fun (digits, places) =>
    match back.drop 1 with
    | [] => if back.isEmpty then some ⟨digits, places, 0⟩ else none
    | '-' :: rest => (digits? 10 rest).map fun n => ⟨digits, places, -(n : Int)⟩
    | '+' :: rest => (digits? 10 rest).map fun n => ⟨digits, places, n⟩
    | rest => (digits? 10 rest).map fun n => ⟨digits, places, n⟩

/-- The double-precision number nearest to the one written; none if it is too large. -/
def DecimalParts.toFloat? (d : DecimalParts) : Option Float :=
  let exponent := d.exponent - d.places
  let length : Int := if d.digits = 0 then 0 else (Nat.toDigits 10 d.digits).length
  if d.digits = 0 ∨ exponent + length < -400 then some 0
  else if 400 < exponent + length then none
  else
    let x := Float.ofScientific d.digits (exponent < 0) exponent.natAbs
    if x.isInf then none else some x

/-- A finite decimal number with a sign, or one of the words for what is not finite. -/
def realWord? (s : String) : Option Float :=
  let unsigned? : List Char → Option Float := fun cs => (decimalParts? cs).bind (·.toFloat?)
  if s = ".nan" ∨ s = ".NaN" ∨ s = ".NAN" then some (0.0 / 0.0)
  else if s = "-.inf" ∨ s = "-.Inf" ∨ s = "-.INF" then some (-1.0 / 0.0)
  else if s = ".inf" ∨ s = ".Inf" ∨ s = ".INF" ∨ s = "+.inf" ∨ s = "+.Inf" ∨ s = "+.INF" then
    some (1.0 / 0.0)
  else
    match s.toList with
    | '+' :: rest => unsigned? rest
    | '-' :: rest => (unsigned? rest).map fun x => -x
    | cs => unsigned? cs

/-- The type a scalar without quotes has of itself. -/
def plainScalar (s : String) : Scalar :=
  if s.isEmpty || isNullWord s then .null
  else
    match boolWord? s, integerWord? s.toList with
    | some b, _ => .bool b
    | none, some i => .integer i
    | none, none =>
      if hasLeadingZero s.toList then .text s
      else
        match realWord? s with
        | some x => .real x
        | none => .text s

namespace Scalar

/--
The type a scalar has of itself; none if it is marked with a type it cannot be read as, or names
an alternative that nothing here asks for.
-/
def resolve? : Scalar → Option Scalar
  | spelt .plain .unmarked s => some (plainScalar s)
  | spelt _ .unmarked s => some (text s)
  | spelt _ .null s => if isNullWord s then some null else none
  | spelt _ .bool s => (boolWord? s).map bool
  | spelt _ .integer s => (integerWord? s.toList).map integer
  | spelt _ .real s => (realWord? s).map real
  | spelt _ .foreign s => some (text s)
  | spelt _ (.variant _) _ => none
  | outOfRange => none
  | other => some other

/--
The spelling of a scalar for a reader that wants a certain type: without quotes whatever its tag
says, or as a literal block that is marked with that type.
-/
def spellingFor? (wanted : Mark) : Scalar → Option String
  | spelt .plain _ s => some s
  | spelt .literal mark s => if mark = wanted then some s else none
  | _ => none

end Scalar

end TechniqueScan.Document
