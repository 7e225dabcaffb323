import TechniqueScan.Decimal.Notation
import TechniqueScan.Document.Plain
import TechniqueScan.Text.Escape

/-!
Writing YAML, one entry on each line. A text is written without quotes if it then reads back as
the same text, as a literal block if it has several lines, and between quotes otherwise.
-/

namespace TechniqueScan.Document.YamlText

/-! ## What a text consists of -/

/-- Characters that end a line. -/
def isBreak (c : Char) : Bool :=
  c = '\n' || c = '\r' || c = '\x85' || c = '\u2028' || c = '\u2029'

/-- Characters that separate what is written on a line from what is next to it. -/
def isSeparator (c : Char) : Bool := c = ' ' || c = '\t' || c = '\x00' || isBreak c

/-- Characters that may be written as themselves. -/
def isShown (c : Char) : Bool :=
  let n := c.toNat
  n = 0x0a || (0x20 ≤ n && n ≤ 0x7e) || (0xa0 ≤ n && n ≤ 0xfffd && n ≠ 0xfeff) || 0x10000 ≤ n

/-- Whether two neighbours in a text are such and such. -/
def hasPair (first second : Char → Bool) (cs : List Char) : Bool :=
  (cs.zip cs.tail).any fun (c, d) => first c && second d

/-- Whether the first character is taken for the beginning of something other than a text. -/
def startsIndicator (cs : List Char) : Bool :=
  match cs with
  | [] => false
  | c :: rest =>
    "#,[]\x7b\x7d&*!|>'\"%@`".toList.contains c
      || ((c = '?' || c = ':' || c = '-') && (rest.head?.map isSeparator).getD true)
      || cs.take 3 = ['-', '-', '-'] || cs.take 3 = ['.', '.', '.']

/-- Whether a character is taken for the end of a key or the beginning of a comment. -/
def holdsIndicator (cs : List Char) : Bool :=
  hasPair (· = ':') isSeparator cs || cs.getLast? == some ':'
    || hasPair isSeparator (· = '#') cs

/-- What can be shown, and has no blanks where a line ends. -/
def isPresentable (cs : List Char) : Bool :=
  cs.all isShown && !hasPair (· = ' ') isBreak cs

/-- Whether a text may stand without quotes. -/
def mayBePlain (cs : List Char) : Bool :=
  isPresentable cs && !cs.any isBreak && cs.head? != some ' ' && cs.getLast? != some ' '
    && !startsIndicator cs && !holdsIndicator cs

/-- Whether a text may stand between single quotes. -/
def maySingleQuote (cs : List Char) : Bool :=
  isPresentable cs && !hasPair isBreak (· = ' ') cs

/-- Whether a text may stand as a block. -/
def mayBeBlock (cs : List Char) : Bool := isPresentable cs && cs.getLast? != some ' '

/-- Whether a text without quotes would be read as something else, or might be by some. -/
def isMistakable (s : String) : Bool :=
  match plainScalar s with
  | .text _ => hasLeadingZero s.toList
  | _ => true

/-! ## The forms of a text -/

/-- How a text is written. -/
inductive Form where
  | plain | singleQuoted | doubleQuoted | literal
  deriving DecidableEq, Repr

/-- The form in which a text is written. -/
def formOf (s : String) : Form :=
  let cs := s.toList
  if cs.contains '\n' then if mayBeBlock cs then .literal else .doubleQuoted
  else if !isMistakable s && mayBePlain cs then .plain
  else if maySingleQuote cs then .singleQuoted
  else .doubleQuoted

def blanks (n : Nat) : List Char := List.replicate n ' '

/-- Characters with each new line indented that is not empty. -/
def indented (indent : Nat) (write : Char → List Char) : (atStart : Bool) → List Char → List Char
  | _, [] => []
  | atStart, c :: rest =>
    if isBreak c then c :: indented indent write true rest
    else (if atStart then blanks indent else []) ++ write c ++ indented indent write false rest

/-- A text between single quotes; a quote in it is written twice. -/
def singleQuoted (indent : Nat) (cs : List Char) : List Char :=
  let last := cs.getLast?.map isBreak
  '\'' :: indented indent (fun c => if c = '\'' then [c, c] else [c]) false cs
    ++ (if last == some true then blanks indent else []) ++ ['\'']

/-- The upper-case hexadecimal digits of a number, filled up with zeros to a width. -/
def upperHex (width n : Nat) : List Char := (Text.hexText width n).toList.map Char.toUpper

/-- A character between double quotes. -/
def escapeChar (c : Char) : List Char :=
  if isShown c && !isBreak c && c ≠ '"' && c ≠ '\\' then [c]
  else
    '\\' ::
      match c with
      | '\x00' => ['0']
      | '\x07' => ['a']
      | '\x08' => ['b']
      | '\t' => ['t']
      | '\n' => ['n']
      | '\x0b' => ['v']
      | '\x0c' => ['f']
      | '\r' => ['r']
      | '\x1b' => ['e']
      | '\x85' => ['N']
      | '\u2028' => ['L']
      | '\u2029' => ['P']
      | '"' | '\\' => [c]
      | _ =>
        if c.toNat < 0x100 then 'x' :: upperHex 2 c.toNat
        else if c.toNat < 0x10000 then 'u' :: upperHex 4 c.toNat
        else 'U' :: upperHex 8 c.toNat

/-- A text between double quotes. -/
def doubleQuoted (cs : List Char) : List Char := '"' :: cs.flatMap escapeChar ++ ['"']

/-- How the end of a block is to be understood: without the last line end, with all, or with one. -/
def blockEnd (cs : List Char) : List Char :=
  match cs.reverse with
  | [] => ['-']
  | [c] => if isBreak c then ['+'] else ['-']
  | c :: d :: _ => if !isBreak c then ['-'] else if isBreak d then ['+'] else []

/-- A text as a block of lines. The indentation is named if the first line would hide it. -/
def literal (indent : Nat) (cs : List Char) : List Char :=
  let hidden := match cs.head? with
    | some c => c = ' ' || isBreak c
    | none => false
  '|' :: (if hidden then ['2'] else []) ++ blockEnd cs ++ '\n' :: indented indent ([·]) true cs

/-- A text in its form, inside some indentation. -/
def text (indent : Nat) (s : String) : String :=
  String.ofList <|
    match formOf s with
    | .plain => s.toList
    | .singleQuoted => singleQuoted indent s.toList
    | .doubleQuoted => doubleQuoted s.toList
    | .literal => literal indent s.toList

/-! ## Documents -/

/-- A scalar inside some indentation. -/
def scalar (indent : Nat) : Scalar → String
  | .null | .outOfRange => "null"
  | .bool b => if b then "true" else "false"
  | .integer i => Decimal.signed (i < 0) (Decimal.digitText i.natAbs)
  | .real x => Decimal.yaml.write x
  | .text s => text indent s
  | .spelt _ _ s => text indent s

/-- A key, which is written on one line. -/
def key : Value → String
  | .scalar (.text s) =>
    if formOf s = .literal then String.ofList (doubleQuoted s.toList) else text 0 s
  | .scalar s => scalar 0 s
  | _ => "''"

/-- What has been written, with its last line ended. -/
def ended (s : String) : String :=
  if (s.toList.getLast?.map isBreak).getD false then s else s ++ "\n"

mutual

/-- A value behind its key or its dash. -/
def behind (indent : Nat) : Value → String
  | .scalar s => " " ++ ended (scalar (indent + 2) s)
  | .list _ [] => " []\n"
  | .list _ vs => "\n" ++ items (indent + 2) vs
  | .table [] => " \x7b\x7d\n"
  | .table es => "\n" ++ entries (indent + 2) es

def items (indent : Nat) : List Value → String
  | [] => ""
  | v :: vs => String.ofList (blanks indent) ++ "-" ++ behind indent v ++ items indent vs

def entries (indent : Nat) : List (Value × Value) → String
  | [] => ""
  | (k, v) :: es =>
    String.ofList (blanks indent) ++ key k ++ ":" ++ behind indent v ++ entries indent es

end

/-- A document. -/
def document : Value → String
  | .scalar s => ended (scalar 0 s)
  | .list _ [] => "[]\n"
  | .list _ vs => items 0 vs
  | .table [] => "\x7b\x7d\n"
  | .table es => entries 0 es

end TechniqueScan.Document.YamlText
