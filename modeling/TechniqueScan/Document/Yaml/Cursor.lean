/-!
A place in the text of a YAML document, and the classes of characters that its tokens are told
apart by.
-/

namespace TechniqueScan.Document.Yaml

/-- A place in a text: what follows, and how many characters, lines and columns come before. -/
structure Cursor where
  rest : List Char
  index : Nat := 0
  line : Nat := 0
  column : Nat := 0

/-- Characters that end a line. -/
def isBreak (c : Char) : Bool :=
  c == '\n' || c == '\r' || c == '\u0085' || c == '\u2028' || c == '\u2029'

def isSpaceOrTab (c : Char) : Bool := c == ' ' || c == '\t'

/-- Characters that may stand in a document at all. -/
def isAllowed (c : Char) : Bool :=
  let n := c.toNat
  n == 9 || n == 10 || n == 13 || (0x20 ≤ n && n ≤ 0x7e) || n == 0x85
    || (0xa0 ≤ n && n ≤ 0xfffd && n != 0xfeff) || 0x10000 ≤ n

/-- Characters of names: of anchors, of directives, of handles of tags. -/
def isWordChar (c : Char) : Bool := c.isAlphanum || c == '_' || c == '-'

namespace Cursor

/-- The character some places ahead. -/
def peek? (c : Cursor) (ahead : Nat := 0) : Option Char := c.rest[ahead]?

/-- Whether a certain character comes next. -/
def sees (c : Cursor) (x : Char) : Bool := c.peek? == some x

/-- Whether a blank, the end of a line or the end of the text is some places ahead. -/
def blankAhead (c : Cursor) (ahead : Nat) : Bool :=
  match c.peek? ahead with
  | some x => isSpaceOrTab x || isBreak x
  | none => true

/-- Whether the line or the text ends here. -/
def atLineEnd (c : Cursor) : Bool :=
  match c.peek? with
  | some x => isBreak x
  | none => true

/-- Moves over characters of one line. -/
def skip (c : Cursor) (n : Nat := 1) : Cursor :=
  { c with rest := c.rest.drop n, index := c.index + n, column := c.column + n }

/-- Moves over the end of a line. -/
def skipBreak (c : Cursor) : Cursor :=
  match c.rest with
  | '\r' :: '\n' :: rest => ⟨rest, c.index + 2, c.line + 1, 0⟩
  | x :: rest => if isBreak x then ⟨rest, c.index + 1, c.line + 1, 0⟩ else c
  | [] => c

/-- What the end of a line counts as in a text: a line feed, unless it is a separator of its own. -/
def breakText (c : Cursor) : List Char :=
  match c.peek? with
  | some x => if x == '\u2028' || x == '\u2029' then [x] else if isBreak x then ['\n'] else []
  | none => []

/-- Moves on while the characters of the line satisfy a test; gives them as well. -/
def takeWhile (c : Cursor) (test : Char → Bool) : List Char × Cursor :=
  let taken := c.rest.takeWhile test
  (taken, c.skip taken.length)

/-- Whether a line that starts or ends a document begins here. -/
def atDocumentMark (c : Cursor) : Bool :=
  c.column == 0 && (c.rest.take 3 == ['-', '-', '-'] || c.rest.take 3 == ['.', '.', '.'])
    && c.blankAhead 3

end Cursor

end TechniqueScan.Document.Yaml
