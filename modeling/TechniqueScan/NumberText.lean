import TechniqueScan.Document.Decode
import TechniqueScan.Text.Blank

/-!
Numbers given as texts: decimal, or hexadecimal behind `0x`. A text either denotes a word of 64
bits exactly or is refused with the reason found first from the left.
-/

namespace TechniqueScan.NumberText

open Document

/-- One more digit behind a number; the digit is looked at before the size of the number. -/
def step (radix n : Nat) (c : Char) : Except NumberFault Nat :=
  match digitIn? radix c with
  | none => .error .invalidDigit
  | some d => if radix * n + d < 1 <<< 64 then .ok (radix * n + d) else .error .overflow

/-- A word from its digits. -/
def ofDigits (radix : Nat) (cs : List Char) : Except NumberFault Nat :=
  cs.foldlM (step radix) 0

/-- A word with at most one plus in front. -/
def ofSigned (radix : Nat) : List Char → Except NumberFault Nat
  | [] => .error .empty
  | '+' :: [] => .error .invalidDigit
  | '+' :: digits => ofDigits radix digits
  | digits => ofDigits radix digits

/-- A word in the notation its beginning asks for. -/
def ofChars : List Char → Except NumberFault Nat
  | '0' :: 'x' :: rest => ofSigned 16 rest
  | '0' :: 'X' :: rest => ofSigned 16 rest
  | cs => ofSigned 10 cs

/-- Reads a text, blanks around it aside. -/
def read (s : String) : Except NumberFault UInt64 :=
  UInt64.ofNat <$> ofChars (Text.trim s).toList

/-- Reads a document that is a whole number or a text that denotes one. -/
def decode (v : Value) : Decoded UInt64 :=
  match v.resolved? with
  | some (.integer i) => if 0 ≤ i ∧ i < (1 <<< 64 : Nat) then .ok (UInt64.ofNat i.toNat) else wrongShape
  | some (.text s) =>
    match read s with
    | .ok w => .ok w
    | .error fault => .refused ⟨[], .number (Text.trim s) fault⟩
  | _ => wrongShape

/-- The reason in words. -/
def reason : NumberFault → String
  | .empty => "cannot parse integer from empty string"
  | .invalidDigit => "invalid digit found in string"
  | .overflow => "number too large to fit in target type"

end TechniqueScan.NumberText
