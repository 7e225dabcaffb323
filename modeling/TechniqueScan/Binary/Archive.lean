import TechniqueScan.Binary.Bytes
import TechniqueScan.Text.Blank

/-!
Archives of object files. Nothing in them is looked at; only whether their members can be listed.
-/

namespace TechniqueScan.Binary.Archive

/-- The bytes that archives begin with. -/
def magic : List UInt8 := "!<arch>\n".toUTF8.data.toList

structure Member where
  name : String
  start : Nat
  size : Nat

/-- A decimal number with at most one plus in front. -/
def decimal? (s : String) : Option Nat :=
  let digits := match s.toList with
    | '+' :: rest => rest
    | cs => cs
  if digits.isEmpty || !digits.all Char.isDigit then none
  else some (digits.foldl (fun n c => 10 * n + (c.toNat - 48)) 0)

/-- The text of some bytes, whatever zeros there are in it. -/
def wholeText? (bytes : ByteArray) (offset size : Nat) : Option String :=
  (slice? bytes offset size).bind String.fromUTF8?

/-- The length of a name that stands behind the header. -/
def longName? (name : String) : Option Nat :=
  match name.toList with
  | '#' :: '1' :: '/' :: rest =>
    decimal? (String.ofList (rest.reverse.dropWhile (· = ' ')).reverse)
  | _ => none

/-- A member, its header standing at an offset. -/
def member? (bytes : ByteArray) (offset : Nat) : Option Member := do
  let name ← wholeText? bytes offset 16
  let _ ← slice? bytes offset 60
  let size ← decimal? (Text.trim (← wholeText? bytes (offset + 48) 10))
  let start := offset + 60 + (offset + 60) % 2
  match longName? name with
  | none => some { name, start, size }
  | some length =>
    let _ ← wholeText? bytes start length
    if size < length then none else some { name, start := start + length, size := size - length }

/-- Whether a table of symbols can be read: how many there are, where, and their names. -/
def symbolsReadable (bytes : ByteArray) (m : Member) : Bool :=
  match slice? bytes m.start m.size with
  | none => false
  | some part =>
    match number? .big part 0 4 with
    | none => false
    | some count => 4 * count ≤ part.size && 4 + 4 * count ≤ part.size

/-- Whether the members from an offset on can be listed. -/
def listableFrom (bytes : ByteArray) : (fuel : Nat) → (offset : Nat) → Bool
  | 0, _ => false
  | fuel + 1, offset =>
    if bytes.size ≤ offset + 1 then true
    else
      match member? bytes (offset + offset % 2) with
      | none => false
      | some m =>
        let readable :=
          if m.name = "/               " then symbolsReadable bytes m
          else if m.name = "//              " then m.start + m.size ≤ bytes.size
          else true
        readable && listableFrom bytes fuel (m.start + m.size)

/-- Whether all members of an archive can be listed. -/
def isListable (bytes : ByteArray) : Bool := listableFrom bytes (bytes.size + 1) magic.length

end TechniqueScan.Binary.Archive
