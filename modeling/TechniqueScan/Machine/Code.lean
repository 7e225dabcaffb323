import TechniqueScan.Binary.Bytes
import TechniqueScan.Text.Escape

/-!
Instructions as they are read out of machine code, and how their parts are written.
-/

namespace TechniqueScan.Machine

/-- An instruction that was read. -/
structure Decoded where
  /-- How many bytes it takes. -/
  length : Nat
  mnemonic : String
  operands : String := ""
  /-- The numbers among its operands, each with the operand's position. -/
  immediates : List (Nat × UInt64) := []
  /-- The address it refers to by its distance from the next instruction. -/
  memoryTarget : Option UInt64 := none
  isCall : Bool := false
  deriving DecidableEq, Repr

/-- A number as an operand: one digit as it is, more in hexadecimal. -/
def numeral (n : Nat) : String := if n < 10 then toString n else "0x" ++ Text.hexText 1 n

/-- A number with a sign as an operand. -/
def signedNumeral (i : Int) : String :=
  if i < 0 then "-" ++ numeral i.natAbs else numeral i.natAbs

/-- A number of some bits, the highest of which is a sign. -/
def signed (bits n : Nat) : Int :=
  if 1 <<< (bits - 1) ≤ n then (n : Int) - (1 <<< bits : Nat) else n

/-- A number with a sign as a word; a negative one wraps around. -/
def wordOfInt (i : Int) : UInt64 := UInt64.ofNat (i % (1 <<< 64 : Nat)).toNat

/-- Reads one instruction of some code, at an offset that has an address. -/
abbrev Decoder : Type := (code : ByteArray) → (offset : Nat) → (address : UInt64) → Option Decoded

/-- Reads instructions one behind the other, up to the first that is none, or up to a budget. -/
def listing (decode : Decoder) (code : ByteArray) : (budget : Nat) → (offset : Nat) →
    (address : UInt64) → List (UInt64 × Decoded)
  | 0, _, _ => []
  | budget + 1, offset, address =>
    match decode code offset address with
    | none => []
    | some d =>
      (address, d) :: listing decode code budget (offset + d.length)
        (address + UInt64.ofNat d.length)

end TechniqueScan.Machine
