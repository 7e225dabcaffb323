/-!
Bytes as text, as far as they are UTF-8.
-/

namespace TechniqueScan.Text

/-- How many bytes from an offset on are UTF-8. -/
def validBytes (bytes : ByteArray) (offset : Nat) : Nat :=
  if _h : offset < bytes.size then
    match bytes.utf8DecodeChar? offset with
    | some c => c.utf8Size + validBytes bytes (offset + c.utf8Size)
    | none => 0
  else 0
termination_by bytes.size - offset
decreasing_by
  have := c.utf8Size_pos
  omega

/-- The text that bytes begin with, and whether it is all of them. -/
def decodeUtf8 (bytes : ByteArray) : String × Bool :=
  match String.fromUTF8? bytes with
  | some s => (s, true)
  | none => ((String.fromUTF8? (bytes.extract 0 (validBytes bytes 0))).getD "", false)

end TechniqueScan.Text
