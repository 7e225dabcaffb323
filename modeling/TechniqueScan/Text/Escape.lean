import TechniqueScan.Text.Printable

/-!
Texts of a binary shown on one line. Controls, quotes, backslashes and everything that cannot be
shown as itself are written as escapes, so what is shown names its text unambiguously.
-/

namespace TechniqueScan.Text

/-- The lower-case hexadecimal digits of a number, without leading zeros. -/
def hexDigits (n : Nat) : List Char := Nat.toDigits 16 n

/-- The lower-case hexadecimal text of a number, filled up with zeros to a width. -/
def hexText (width n : Nat) : String :=
  let digits := hexDigits n
  String.ofList (List.replicate (width - digits.length) '0' ++ digits)

/-- Which quotes an escaped text protects and where a combining character is written as code. -/
structure EscapeStyle where
  single : Bool
  combining : Bool

/-- A code point written as `\u` with its hexadecimal digits in braces. -/
def escapeCode (c : Char) : List Char :=
  '\\' :: 'u' :: '\x7b' :: hexDigits c.toNat ++ ['\x7d']

/-- One character of an escaped text. -/
def escapeChar (style : EscapeStyle) (c : Char) : List Char :=
  if c = '\x00' then ['\\', '0']
  else if c = '\t' then ['\\', 't']
  else if c = '\r' then ['\\', 'r']
  else if c = '\n' then ['\\', 'n']
  else if c = '\\' ∨ c = '"' then ['\\', c]
  else if c = '\'' then if style.single then ['\\', c] else [c]
  else if style.combining && isGraphemeExtend c then escapeCode c
  else if isPrintable c then [c]
  else escapeCode c

/--
A text with both kinds of quotes escaped. A combining character is written as a code only where
there is nothing before it to combine with.
-/
def escapeChars : List Char → List Char
  | [] => []
  | c :: rest => escapeChar ⟨true, true⟩ c ++ rest.flatMap (escapeChar ⟨true, false⟩)

/-- A text with everything escaped that cannot be shown as itself. -/
def escape (s : String) : String := String.ofList (escapeChars s.toList)

/-- A text between double quotes; a single quote and what combines with a character need care. -/
def quoted (s : String) : String :=
  String.ofList ('"' :: s.toList.flatMap (escapeChar ⟨false, true⟩) ++ ['"'])

/-- A list of quoted texts between square brackets. -/
def quotedList (items : List String) : String :=
  "[" ++ ", ".intercalate (items.map quoted) ++ "]"

end TechniqueScan.Text
