/-!
The arithmetic in which weights, confidences and scores are computed. Everything that reasons
about evidence is written once over a type of numbers; it runs on double-precision numbers, and
the same definitions on exact rationals say what the rounding is an approximation of.
-/

namespace TechniqueScan

/--
A type of numbers to compute confidences in. The comparison `lt` is false as soon as one side is
no number; `compareTotal` orders everything.
-/
class Arithmetic (α : Type) where
  ofNat : Nat → α
  /-- The number `digits / 10 ^ places`. -/
  decimal : (digits places : Nat) → α
  add : α → α → α
  sub : α → α → α
  mul : α → α → α
  div : α → α → α
  lt : α → α → Bool
  isNaN : α → Bool
  compareTotal : α → α → Ordering
  /-- Rounds to a number of decimal places, a half going away from zero. -/
  roundTo : (places : Nat) → α → α

namespace Arithmetic

variable {α : Type} [Arithmetic α]

/-- Whether the first number is at most the second; false as soon as one is no number. -/
def le (a b : α) : Bool := !isNaN a && !isNaN b && !lt b a

/-- The greater of two numbers; what is no number loses. -/
def max (a b : α) : α :=
  if isNaN a then b else if isNaN b then a else if lt a b then b else a

/-- The number moved into the interval from 0 to 1. -/
def clampUnit (a : α) : α :=
  if lt a (ofNat 0) then ofNat 0 else if lt (ofNat 1) a then ofNat 1 else a

end Arithmetic

/-! ## Double precision -/

/-- The bits of a number below its sign. -/
def Float.magnitude (x : Float) : Nat := x.toBits.toNat % 1 <<< 63

/-- Whether the sign bit of a number is set. -/
def Float.signBit (x : Float) : Bool := 1 <<< 63 ≤ x.toBits.toNat

/-- A key that orders numbers by value; both zeros have the key 0. -/
def Float.valueKey (x : Float) : Int :=
  if Float.signBit x then -(Float.magnitude x : Int) else Float.magnitude x

/-- A key that orders all numbers by their bits, the negative zero before the positive one. -/
def Float.totalKey (x : Float) : Int :=
  if Float.signBit x then -(Float.magnitude x : Int) - 1 else Float.magnitude x

/-- Whether the magnitude exceeds that of the infinities. -/
def Float.isUndefined (x : Float) : Bool := 0x7ff0000000000000 < Float.magnitude x

/-- Numbers read the way they are written: `digits / 10 ^ places` rounded once. -/
instance : Arithmetic Float where
  ofNat n := Float.ofNat n
  decimal digits places := Float.ofScientific digits true places
  add := Float.add
  sub := Float.sub
  mul := Float.mul
  div := Float.div
  lt a b := !Float.isUndefined a && !Float.isUndefined b
    && decide (Float.valueKey a < Float.valueKey b)
  isNaN := Float.isUndefined
  compareTotal a b := compare (Float.totalKey a) (Float.totalKey b)
  roundTo places x :=
    let scale := Float.ofNat (Nat.pow 10 places)
    Float.div (Float.round (Float.mul x scale)) scale

/-! ## Exact rationals -/

/-- The nearest whole number, a half going away from zero. -/
def Rat.roundHalfAway (x : Rat) : Int :=
  if 0 ≤ x then (x + 1 / 2).floor else -((-x + 1 / 2).floor)

instance : Arithmetic Rat where
  ofNat n := (n : Rat)
  decimal digits places := (digits : Rat) / (Nat.pow 10 places : Nat)
  add a b := a + b
  sub a b := a - b
  mul a b := a * b
  div a b := a / b
  lt a b := decide (a < b)
  isNaN _ := false
  compareTotal a b := if a < b then .lt else if b < a then .gt else .eq
  roundTo places x := (Rat.roundHalfAway (x * (Nat.pow 10 places : Nat)) : Rat) / (Nat.pow 10 places : Nat)

end TechniqueScan
