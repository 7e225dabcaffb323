/-!
Reading numbers, texts and records out of the bytes of a file. Whatever lies behind the end of the
file cannot be read, and neither can an empty part that begins there.
-/

namespace TechniqueScan.Binary

/-- Which byte of a number comes first. -/
inductive ByteOrder where
  | little | big
  deriving DecidableEq, Repr

/-- The number that some bytes make, the least significant one first. -/
def numberOfBytes : List UInt8 → Nat
  | [] => 0
  | b :: bs => b.toNat + 256 * numberOfBytes bs

/-- A part of the bytes, all of which has to be there. -/
def slice? (bytes : ByteArray) (offset length : Nat) : Option ByteArray :=
  if offset < bytes.size ∧ offset + length ≤ bytes.size then
    some (bytes.extract offset (offset + length))
  else none

/-- An unsigned number of some bytes. -/
def number? (order : ByteOrder) (bytes : ByteArray) (offset width : Nat) : Option Nat :=
  (slice? bytes offset width).map fun part =>
    match order with
    | .little => numberOfBytes part.data.toList
    | .big => numberOfBytes part.data.toList.reverse

/-- The fields of a record, one behind the other, by their widths. -/
def fields? (order : ByteOrder) (bytes : ByteArray) : (offset : Nat) → (widths : List Nat) →
    Option (List Nat)
  | _, [] => some []
  | offset, w :: ws => do
    let n ← number? order bytes offset w
    let rest ← fields? order bytes (offset + w) ws
    some (n :: rest)

/-- The bytes from an offset up to the first zero or to an end. -/
def untilZero (bytes : ByteArray) (offset stop : Nat) : List UInt8 :=
  if offset < stop then
    match bytes[offset]? with
    | some b => if b = 0 then [] else b :: untilZero bytes (offset + 1) stop
    | none => []
  else []
termination_by stop - offset

/-- The text of some bytes, if they are UTF-8. -/
def textOfBytes? (bs : List UInt8) : Option String := String.fromUTF8? ⟨bs.toArray⟩

/-- The text that ends with a zero, or with the file. -/
def text? (bytes : ByteArray) (offset : Nat) : Option String :=
  if offset < bytes.size then textOfBytes? (untilZero bytes offset bytes.size) else none

/-- The text in a field of fixed size, which may end with a zero. -/
def fixedText? (bytes : ByteArray) (offset size : Nat) : Option String :=
  textOfBytes? (untilZero bytes offset (offset + size))

/-- A number in groups of seven bits, the least significant one first, and where it ends. -/
def groupedNumber? (bytes : ByteArray) (offset : Nat) : Option (Nat × Nat) :=
  go 10 0 offset
where
  go : (left : Nat) → (shift : Nat) → (offset : Nat) → Option (Nat × Nat)
    | 0, _, _ => none
    | left + 1, shift, offset => do
      let b ← bytes[offset]?
      if shift = 63 ∧ 1 < b then none
      else
        let low := (b.toNat % 128) <<< shift
        if b.toNat < 128 then some (low, offset + 1)
        else
          let (high, stop) ← go left (shift + 7) (offset + 1)
          some (low + high, stop)

end TechniqueScan.Binary
