/-!
The shortest decimal that reads back as a binary number. A finite positive binary number
`mantissa · 2 ^ exponent` owns the interval of reals that round to it. For one, two, … digits the
two decimals next to the number are tested against that interval, and the first hit wins.
-/

namespace TechniqueScan.Decimal

/-- A positive decimal `digits · 10 ^ exponent`. -/
structure Positive where
  digits : Nat
  exponent : Int
  deriving DecidableEq, Repr

/-- A nonnegative rational as numerator and denominator, not reduced. -/
structure Ratio where
  num : Nat
  den : Nat

/-- The ratio `n · base ^ e`. -/
def Ratio.scaled (n base : Nat) (e : Int) : Ratio :=
  if e < 0 then ⟨n, Nat.pow base e.natAbs⟩ else ⟨n * Nat.pow base e.natAbs, 1⟩

def Ratio.le (a b : Ratio) : Bool := a.num * b.den ≤ b.num * a.den

def Ratio.lt (a b : Ratio) : Bool := a.num * b.den < b.num * a.den

/-- The distance between two ratios. -/
def Ratio.distance (a b : Ratio) : Ratio :=
  let x := a.num * b.den
  let y := b.num * a.den
  ⟨(x - y) + (y - x), a.den * b.den⟩

/-- A finite binary number: sign, mantissa and exponent of two. -/
structure Binary where
  negative : Bool
  mantissa : Nat
  exponent : Int

/-- What a double-precision word stands for. -/
inductive Decoded where
  | nan
  | infinite (negative : Bool)
  | finite (b : Binary)

/-- The fields of a double-precision number. -/
def decode (x : Float) : Decoded :=
  let bits := x.toBits.toNat
  let negative := bits ≥ 1 <<< 63
  let biased : Nat := bits >>> 52 % 1 <<< 11
  let fraction : Nat := bits % 1 <<< 52
  if biased = 2047 then if fraction = 0 then .infinite negative else .nan
  else if biased = 0 then .finite ⟨negative, fraction, -1074⟩
  else .finite ⟨negative, 1 <<< 52 + fraction, (biased : Int) - 1075⟩

/-- The interval of reals that round to a number: its two ends, and whether they belong to it. -/
structure Interval where
  low : Ratio
  high : Ratio
  closed : Bool

def Interval.contains (i : Interval) (r : Ratio) : Bool :=
  if i.closed then i.low.le r && r.le i.high else i.low.lt r && r.lt i.high

/-- Half a unit on either side; below a power of two the lower neighbour is twice as near. -/
def Binary.interval (b : Binary) : Interval :=
  let below := if b.mantissa = 1 <<< 52 ∧ -1074 < b.exponent then 1 else 2
  { low := .scaled (4 * b.mantissa - below) 2 (b.exponent - 2)
    high := .scaled (4 * b.mantissa + 2) 2 (b.exponent - 2)
    closed := b.mantissa % 2 = 0 }

/-- The exponent `e` with `10 ^ e ≤ r < 10 ^ (e + 1)`, found from the lengths in bits. -/
def magnitude (r : Ratio) : Int :=
  let guess : Int := ((r.num.log2 : Int) - r.den.log2) * 30103 / 100000
  if (Ratio.scaled 1 10 (guess + 1)).le r then guess + 1
  else if r.lt (.scaled 1 10 guess) then guess - 1
  else guess

/-- The decimal with `count` digits that lies in the interval and is nearest to the number. -/
def withDigits? (value : Ratio) (interval : Interval) (top : Int) (count : Nat) :
    Option Positive :=
  let place := top + 1 - count
  let unit := Ratio.scaled 1 10 place
  let below := value.num * unit.den / (value.den * unit.num)
  let candidate (n : Nat) : Ratio := .scaled n 10 place
  let low := candidate below
  let high := candidate (below + 1)
  match 0 < below && interval.contains low, interval.contains high with
  | true, true =>
    if (value.distance high).lt (value.distance low) then some ⟨below + 1, place⟩
    else some ⟨below, place⟩
  | true, false => some ⟨below, place⟩
  | false, true => some ⟨below + 1, place⟩
  | false, false => none

/-- The shortest decimal of a positive binary number. -/
def shortest (b : Binary) : Positive :=
  let value := Ratio.scaled b.mantissa 2 b.exponent
  let top := magnitude value
  match (List.range 17).findSome? fun n => withDigits? value b.interval top (n + 1) with
  | some d => d
  | none => ⟨b.mantissa, b.exponent⟩

end TechniqueScan.Decimal
