import TechniqueScan.Decimal.Notation
import TechniqueScan.Document.Value
import TechniqueScan.Text.Escape

/-!
Writing JSON, on one line or with two blanks of indentation for each level.
-/

namespace TechniqueScan.Document.JsonText

/-- One character of a quoted text: quotes, backslashes and controls are escaped. -/
def escapeChar (c : Char) : List Char :=
  if c = '"' ∨ c = '\\' then ['\\', c]
  else if c = '\n' then ['\\', 'n']
  else if c = '\r' then ['\\', 'r']
  else if c = '\t' then ['\\', 't']
  else if c = '\x08' then ['\\', 'b']
  else if c = '\x0c' then ['\\', 'f']
  else if c.toNat < 0x20 then '\\' :: 'u' :: (Text.hexText 4 c.toNat).toList
  else [c]

/-- A text between double quotes. -/
def quoted (s : String) : String :=
  if s.toList.all fun c => (escapeChar c).length = 1 then "\"" ++ s ++ "\""
  else "\"" ++ String.ofList (s.toList.flatMap escapeChar) ++ "\""

/-- A scalar; what is no finite number is null. -/
def scalar : Scalar → String
  | .null => "null"
  | .bool b => if b then "true" else "false"
  | .integer i => Decimal.signed (i < 0) (Decimal.digitText i.natAbs)
  | .real x => Decimal.json.write x
  | .outOfRange => "null"
  | .text s => quoted s
  | .spelt _ _ s => quoted s

/-- A key of a table. -/
def key : Value → String
  | .scalar (.text s) => quoted s
  | .scalar (.spelt _ _ s) => quoted s
  | .scalar s => "\"" ++ scalar s ++ "\""
  | _ => "\"\""

mutual

/-- A document on one line. -/
def compact : Value → String
  | .scalar s => scalar s
  | .list _ vs => "[" ++ compactItems vs ++ "]"
  | .table es => "\x7b" ++ compactEntries es ++ "\x7d"

def compactItems : List Value → String
  | [] => ""
  | [v] => compact v
  | v :: vs => compact v ++ "," ++ compactItems vs

def compactEntries : List (Value × Value) → String
  | [] => ""
  | [(k, v)] => key k ++ ":" ++ compact v
  | (k, v) :: es => key k ++ ":" ++ compact v ++ "," ++ compactEntries es

end

/-- The blanks before a line at a level. -/
def indent (level : Nat) : String := String.ofList (List.replicate (2 * level) ' ')

mutual

/-- A document with one item or entry on each line, inside a level of indentation. -/
def pretty (level : Nat) : Value → String
  | .scalar s => scalar s
  | .list _ [] => "[]"
  | .list _ vs => "[" ++ prettyItems (level + 1) true vs ++ "\n" ++ indent level ++ "]"
  | .table [] => "\x7b\x7d"
  | .table es => "\x7b" ++ prettyEntries (level + 1) true es ++ "\n" ++ indent level ++ "\x7d"

def prettyItems (level : Nat) (first : Bool) : List Value → String
  | [] => ""
  | v :: vs =>
    (if first then "\n" else ",\n") ++ indent level ++ pretty level v ++ prettyItems level false vs

def prettyEntries (level : Nat) (first : Bool) : List (Value × Value) → String
  | [] => ""
  | (k, v) :: es =>
    (if first then "\n" else ",\n") ++ indent level ++ key k ++ ": " ++ pretty level v
      ++ prettyEntries level false es

end

end TechniqueScan.Document.JsonText
