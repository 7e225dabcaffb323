import TechniqueScan.Decimal.Shortest

/-!
How numbers are written: in data documents with the fewest digits, in running text without an
exponent, and in tables with a fixed number of places.
-/

namespace TechniqueScan.Decimal

/-- The decimal digits of a number. -/
def digitText (n : Nat) : String := String.ofList (Nat.toDigits 10 n)

/-- A sign before the text of a number. -/
def signed (negative : Bool) (text : String) : String :=
  if negative then "-" ++ text else text

/-- A positive decimal without trailing zeros in its digits. -/
def Positive.normal (d : Positive) : Positive :=
  let zeros := ((Nat.toDigits 10 d.digits).reverse.takeWhile (· = '0')).length
  ⟨d.digits / Nat.pow 10 zeros, d.exponent + zeros⟩

/-- Digits with a point, without an exponent. A whole number gets the given fraction. -/
def positional (d : Positive) (fraction : String) : String :=
  let digits := Nat.toDigits 10 d.digits
  if 0 ≤ d.exponent then
    String.ofList (digits ++ List.replicate d.exponent.toNat '0') ++ fraction
  else
    let places := d.exponent.natAbs
    let padded := List.replicate (places + 1 - digits.length) '0' ++ digits
    let whole := padded.length - places
    String.ofList (padded.take whole ++ '.' :: padded.drop whole)

/-- Digits with a point after the first, and an exponent. -/
def scientific (d : Positive) (plus : String) : String :=
  let digits := Nat.toDigits 10 d.digits
  let exponent := d.exponent + (digits.length - 1 : Nat)
  let rest := digits.drop 1
  String.ofList (digits.take 1) ++ (if rest.isEmpty then "" else "." ++ String.ofList rest) ++ "e"
    ++ (if exponent < 0 then "-" else plus) ++ digitText exponent.natAbs

/-- How a data format writes numbers that need an exponent or are no numbers. -/
structure Notation where
  plus : String
  nan : String
  infinity : String
  minusInfinity : String

/-- A number in a data format: positional for exponents from -5 to 15, always marked as real. -/
def Notation.write (n : Notation) (x : Float) : String :=
  match decode x with
  | .nan => n.nan
  | .infinite negative => if negative then n.minusInfinity else n.infinity
  | .finite b =>
    if b.mantissa = 0 then signed b.negative "0.0"
    else
      let d := (shortest b).normal
      let exponent := d.exponent + ((Nat.toDigits 10 d.digits).length - 1 : Nat)
      signed b.negative <|
        if -5 ≤ exponent ∧ exponent ≤ 15 then positional d ".0" else scientific d n.plus

/-- Numbers in JSON, which has no text for infinities. -/
def json : Notation := ⟨"+", "null", "null", "null"⟩

/-- Numbers in YAML. -/
def yaml : Notation := ⟨"", ".nan", ".inf", "-.inf"⟩

/-- A number in running text: shortest digits, never an exponent, no empty fraction. -/
def plain (x : Float) : String :=
  match decode x with
  | .nan => "NaN"
  | .infinite negative => signed negative "inf"
  | .finite b =>
    if b.mantissa = 0 then signed b.negative "0"
    else signed b.negative (positional (shortest b).normal "")

/-- The quotient rounded to the nearest whole number, a half going to the even neighbour. -/
def roundHalfEven (num den : Nat) : Nat :=
  let q := num / den
  let twice := 2 * (num % den)
  if twice < den then q else if den < twice then q + 1 else q + q % 2

/-- A number in a table, with a fixed number of places. -/
def fixed (places : Nat) (x : Float) : String :=
  match decode x with
  | .nan => "NaN"
  | .infinite negative => signed negative "inf"
  | .finite b =>
    let r := Ratio.scaled (b.mantissa * Nat.pow 10 places) 2 b.exponent
    signed b.negative (positional ⟨roundHalfEven r.num r.den, -places⟩ "")

end TechniqueScan.Decimal
