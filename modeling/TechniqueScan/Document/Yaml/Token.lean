import TechniqueScan.Document.Value
import TechniqueScan.Document.Yaml.Cursor

/-!
The tokens of a YAML document. Block structure is made explicit on the way: indentation opens and
closes collections, and what turns out to be a key gets its mark once its colon is found.
-/

namespace TechniqueScan.Document.Yaml

/-- A token. -/
inductive Token where
  | versionDirective
  | tagDirective (handle lead : String)
  | documentStart
  | documentEnd
  | blockSequenceStart
  | blockMappingStart
  | blockEnd
  | flowSequenceStart
  | flowSequenceEnd
  | flowMappingStart
  | flowMappingEnd
  | blockEntry
  | flowEntry
  | key
  | value
  | alias (name : String)
  | anchor (name : String)
  | tag (handle suffix : String)
  | scalar (style : Style) (text : String)
  deriving DecidableEq, Repr, Inhabited

/-- What was read, and where the text goes on; nothing if it is no YAML. -/
abbrev Scan (α : Type) : Type := Option (α × Cursor)

/-! ## Scalars -/

/--
Line folding: the ends of lines between two words. One line feed becomes a blank, further ones
stay; a separator of its own kind stays as well.
-/
def foldBreaks (first : List Char) (others : List Char) : List Char :=
  if first.head? == some '\n' then if others.isEmpty then [' '] else others
  else first ++ others

/-- Blanks and ends of lines between the words of a scalar. -/
structure Gap where
  /-- Blanks, as long as no line has ended. -/
  blanks : List Char := []
  /-- The first end of a line, if there was one. -/
  first : Option (List Char) := none
  /-- The ends of further lines. -/
  others : List Char := []

/-- What a gap contributes to the text between two words. -/
def Gap.text (g : Gap) : List Char :=
  match g.first with
  | some b => foldBreaks b g.others
  | none => g.blanks

/-- A gap with the end of one more line. -/
def Gap.addBreak (g : Gap) (b : List Char) : Gap :=
  match g.first with
  | none => { blanks := [], first := some b, others := [] }
  | some _ => { g with others := g.others ++ b }

/-- Reads a gap. Tabs may not take the place of indentation where a column is required. -/
def readGap (column? : Option Nat) : (fuel : Nat) → Gap → Cursor → Scan Gap
  | 0, _, _ => none
  | fuel + 1, g, c =>
    match c.peek? with
    | none => some (g, c)
    | some x =>
      if isSpaceOrTab x then
        if g.first.isSome then
          if x == '\t' && column?.any (c.column < ·) then none
          else readGap column? fuel g c.skip
        else readGap column? fuel { g with blanks := g.blanks ++ [x] } c.skip
      else if isBreak x then readGap column? fuel (g.addBreak c.breakText) c.skipBreak
      else some (g, c)

/-- Characters that end a plain scalar inside a flow collection. -/
def isFlowIndicator (c : Char) : Bool :=
  c == ',' || c == '[' || c == ']' || c == '\x7b' || c == '\x7d'

/-- The word of a plain scalar that begins here. -/
def plainWord (inFlow : Bool) : (fuel : Nat) → (done : List Char) → Cursor → Scan (List Char)
  | 0, _, _ => none
  | fuel + 1, done, c =>
    match c.peek? with
    | none => some (done.reverse, c)
    | some x =>
      if isSpaceOrTab x || isBreak x then some (done.reverse, c)
      else if inFlow && x == ':' && (c.peek? 1).any (fun y => isFlowIndicator y || y == '?') then
        none
      else if (x == ':' && c.blankAhead 1) || (inFlow && isFlowIndicator x) then
        some (done.reverse, c)
      else plainWord inFlow fuel (x :: done) c.skip

/-- The words of a plain scalar, from the gap before the next one on. -/
def plainRest (inFlow : Bool) (indent : Nat) :
    (fuel : Nat) → (text : List Char) → Gap → Cursor → Scan (List Char × Bool)
  | 0, _, _, _ => none
  | fuel + 1, text, g, c =>
    let broken := g.first.isSome
    if c.atDocumentMark || c.sees '#' then some ((text, broken), c)
    else
      match plainWord inFlow (c.rest.length + 1) [] c with
      | none => none
      | some (word, c') =>
        if word.isEmpty then some ((text, broken), c)
        else
          let text := text ++ g.text ++ word
          match c'.peek? with
          | none => some ((text, false), c')
          | some x =>
            if isSpaceOrTab x || isBreak x then
              match readGap (some indent) (c'.rest.length + 1) {} c' with
              | none => none
              | some (g', c'') =>
                if !inFlow && c''.column < indent then some ((text, g'.first.isSome), c'')
                else plainRest inFlow indent fuel text g' c''
            else some ((text, false), c')

/-- A plain scalar, and whether lines ended behind it. -/
def plainScalar (inFlow : Bool) (indent : Nat) (c : Cursor) : Scan (Token × Bool) :=
  (plainRest inFlow indent (c.rest.length + 1) [] {} c).map fun ((text, broken), c) =>
    ((.scalar .plain (String.ofList text), broken), c)

def hexDigit? (c : Char) : Option Nat :=
  if '0' ≤ c ∧ c ≤ '9' then some (c.toNat - 48)
  else if 'a' ≤ c ∧ c ≤ 'f' then some (c.toNat - 87)
  else if 'A' ≤ c ∧ c ≤ 'F' then some (c.toNat - 55)
  else none

/-- The character with a code given by hexadecimal digits. -/
def codedChar? (digits : List Char) : Option Char :=
  (digits.foldlM (fun n c => (hexDigit? c).map (16 * n + ·)) 0).bind fun n =>
    if (0xd800 ≤ n ∧ n ≤ 0xdfff) ∨ 0x10ffff < n then none else some (Char.ofNat n)

/-- The character that an escape between double quotes stands for, and its length. -/
def escape? : List Char → Option (Char × Nat)
  | '0' :: _ => some ('\x00', 1)
  | 'a' :: _ => some ('\x07', 1)
  | 'b' :: _ => some ('\x08', 1)
  | 't' :: _ => some ('\t', 1)
  | '\t' :: _ => some ('\t', 1)
  | 'n' :: _ => some ('\n', 1)
  | 'v' :: _ => some ('\x0b', 1)
  | 'f' :: _ => some ('\x0c', 1)
  | 'r' :: _ => some ('\r', 1)
  | 'e' :: _ => some ('\x1b', 1)
  | ' ' :: _ => some (' ', 1)
  | '"' :: _ => some ('"', 1)
  | '/' :: _ => some ('/', 1)
  | '\\' :: _ => some ('\\', 1)
  | 'N' :: _ => some ('\u0085', 1)
  | '_' :: _ => some ('\u00a0', 1)
  | 'L' :: _ => some ('\u2028', 1)
  | 'P' :: _ => some ('\u2029', 1)
  | 'x' :: rest => if 2 ≤ rest.length then (codedChar? (rest.take 2)).map (·, 3) else none
  | 'u' :: rest => if 4 ≤ rest.length then (codedChar? (rest.take 4)).map (·, 5) else none
  | 'U' :: rest => if 8 ≤ rest.length then (codedChar? (rest.take 8)).map (·, 9) else none
  | _ => none

/-- The characters of a quoted scalar up to its closing quote, the opening one already read. -/
def quotedRest (double : Bool) : (fuel : Nat) → (done : List Char) → Cursor → Scan (List Char)
  | 0, _, _ => none
  | fuel + 1, done, c =>
    if c.atDocumentMark then none
    else
      match c.peek? with
      | none => none
      | some x =>
        if !double && x == '\'' then
          if c.peek? 1 == some '\'' then quotedRest double fuel ('\'' :: done) (c.skip 2)
          else some (done.reverse, c.skip)
        else if double && x == '"' then some (done.reverse, c.skip)
        else if double && x == '\\' then
          if (c.peek? 1).any isBreak then
            -- The end of the line is escaped: it and the indentation after it mean nothing.
            let start : Gap := { first := some [] }
            match readGap none (c.rest.length + 1) start c.skip.skipBreak with
            | none => none
            | some (g, c') => quotedRest double fuel (g.others.reverse ++ done) c'
          else
            match escape? (c.rest.drop 1) with
            | none => none
            | some (y, n) => quotedRest double fuel (y :: done) (c.skip (n + 1))
        else if isSpaceOrTab x || isBreak x then
          match readGap none (c.rest.length + 1) {} c with
          | none => none
          | some (g, c') => quotedRest double fuel (g.text.reverse ++ done) c'
        else quotedRest double fuel (x :: done) c.skip

/-- A quoted scalar. -/
def quotedScalar (double : Bool) (c : Cursor) : Scan Token :=
  (quotedRest double (c.rest.length + 1) [] c.skip).map fun (text, c) =>
    (.scalar .quoted (String.ofList text), c)

/-! ## Block scalars -/

/-- What becomes of the line ends behind a block scalar. -/
inductive Chomping where
  | strip | clip | keep
  deriving DecidableEq

/--
The ends of empty lines before the next line of a block scalar, and its indentation. As long as
that is not known it is the deepest one met.
-/
def blockBreaks (indent? : Option Nat) :
    (fuel : Nat) → (deepest : Nat) → (breaks : List Char) → Cursor → Scan (Nat × List Char)
  | 0, _, _, _ => none
  | fuel + 1, deepest, breaks, c =>
    let spaces := c.rest.takeWhile (· == ' ')
    let width := match indent? with
      | some indent => Nat.min spaces.length (indent - c.column)
      | none => spaces.length
    let c := c.skip width
    let deepest := Nat.max deepest c.column
    let mayIndent := match indent? with
      | some indent => c.column < indent
      | none => true
    if mayIndent && c.sees '\t' then none
    else if c.peek?.any isBreak then
      blockBreaks indent? fuel deepest (breaks ++ c.breakText) c.skipBreak
    else some ((deepest, breaks), c)

/-- The lines of a block scalar. `wasBlank` says whether the line before began with a blank. -/
def blockLines (literal : Bool) (indent : Nat) :
    (fuel : Nat) → (text lead breaks : List Char) → (wasBlank : Bool) → Cursor →
    Scan (List Char × List Char × List Char)
  | 0, _, _, _, _, _ => none
  | fuel + 1, text, lead, breaks, wasBlank, c =>
    if c.column != indent || c.rest.isEmpty then some ((text, lead, breaks), c)
    else
      let isBlank := c.peek?.any isSpaceOrTab
      let joint :=
        if !literal && lead.head? == some '\n' && !wasBlank && !isBlank then
          if breaks.isEmpty then [' '] else []
        else lead
      let (line, c) := c.takeWhile fun x => !isBreak x
      let text := text ++ joint ++ breaks ++ line
      let lead := c.breakText
      let c := c.skipBreak
      match blockBreaks (some indent) (c.rest.length + 1) 0 [] c with
      | none => none
      | some ((_, breaks), c) => blockLines literal indent fuel text lead breaks isBlank c

/-- The chomping and the indentation that a block scalar asks for. -/
def blockHeader (c : Cursor) : Option ((Chomping × Option Nat) × Cursor) :=
  let chomping? (c : Cursor) : Option Chomping :=
    if c.sees '+' then some .keep else if c.sees '-' then some .strip else none
  let digit? (c : Cursor) : Option Nat := c.peek?.bind fun x =>
    if x.isDigit then some (x.toNat - 48) else none
  match chomping? c, digit? c with
  | some chomping, _ =>
    match digit? c.skip with
    | some 0 => none
    | some n => some ((chomping, some n), c.skip 2)
    | none => some ((chomping, none), c.skip)
  | none, some 0 => none
  | none, some n =>
    match chomping? c.skip with
    | some chomping => some ((chomping, some n), c.skip 2)
    | none => some ((.clip, some n), c.skip)
  | none, none => some ((.clip, none), c)

/-- The rest of a line that holds nothing but blanks and a comment. -/
def skipComment (c : Cursor) : Option Cursor :=
  let (_, c) := c.takeWhile isSpaceOrTab
  let c := if c.sees '#' then (c.takeWhile fun x => !isBreak x).2 else c
  if c.atLineEnd then some c else none

/-- A block scalar inside a collection with an indentation. -/
def blockScalar (literal : Bool) (parent : Int) (c : Cursor) : Option (Token × Cursor) := do
  let ((chomping, increment?), c) ← blockHeader c.skip
  let c ← skipComment c
  let c := c.skipBreak
  let known? := increment?.map fun n => if 0 ≤ parent then parent.toNat + n else n
  let ((deepest, breaks), c) ← blockBreaks known? (c.rest.length + 1) 0 [] c
  let indent := known?.getD (Nat.max deepest (Nat.max (parent + 1).toNat 1))
  let ((text, lead, breaks), c) ← blockLines literal indent (c.rest.length + 1) [] [] breaks false c
  let tail := match chomping with
    | .strip => []
    | .clip => lead
    | .keep => lead ++ breaks
  some (.scalar (if literal then .literal else .quoted) (String.ofList (text ++ tail)), c)

/-! ## Anchors, tags and directives -/

/-- The name behind the mark of an anchor or an alias. -/
def anchorName (c : Cursor) : Scan String :=
  let (name, c) := c.skip.takeWhile isWordChar
  let ended := c.blankAhead 0 || c.peek?.any ("?:,]%@`\x7d".toList.contains ·)
  if name.isEmpty || !ended then none else some (String.ofList name, c)

/-- Characters of tags besides those of names; more of them inside angle brackets. -/
def isTagChar (verbatim : Bool) (c : Char) : Bool :=
  isWordChar c || ";/?:@&=+$.%!~*'()".toList.contains c || (verbatim && ",[]".toList.contains c)

/-- A tag: what stands before its last exclamation mark, and the rest. -/
def tagToken (c : Cursor) : Option (Token × Cursor) := do
  let (tag, c) ←
    if c.peek? 1 == some '<' then
      let (uri, c) := (c.skip 2).takeWhile (isTagChar true)
      if uri.isEmpty || !c.sees '>' then none else some (Token.tag "" (String.ofList uri), c.skip)
    else
      let (word, afterWord) := c.skip.takeWhile isWordChar
      if afterWord.sees '!' then
        let (suffix, c) := afterWord.skip.takeWhile (isTagChar false)
        if suffix.isEmpty then none
        else some (Token.tag (String.ofList ('!' :: word ++ ['!'])) (String.ofList suffix), c)
      else
        let (suffix, c) := c.skip.takeWhile (isTagChar false)
        if suffix.isEmpty then some (Token.tag "" "!", c)
        else some (Token.tag "!" (String.ofList suffix), c)
  if c.blankAhead 0 || c.sees ',' then some (tag, c) else none

/-- A directive: the version of the format, or the meaning of a handle of tags. -/
def directive (c : Cursor) : Option (Token × Cursor) := do
  let (name, c) := c.skip.takeWhile isWordChar
  if name.isEmpty || !c.blankAhead 0 then none
  let (_, c) := c.takeWhile isSpaceOrTab
  let (token, c) ←
    if name == "YAML".toList then
      let (major, c) := c.takeWhile Char.isDigit
      if major.isEmpty || !c.sees '.' then none
      let (minor, c) := c.skip.takeWhile Char.isDigit
      let version := (String.ofList major).toNat?.getD 0
      let revision := (String.ofList minor).toNat?.getD 0
      if minor.isEmpty || version != 1 || !(revision == 1 || revision == 2) then none
      some (Token.versionDirective, c)
    else if name == "TAG".toList then
      if !c.sees '!' then none
      let (word, c) := c.skip.takeWhile isWordChar
      let closed := c.sees '!'
      if !closed && !word.isEmpty then none
      let handle := '!' :: word ++ (if closed then ['!'] else [])
      let c := if closed then c.skip else c
      if !(c.peek?.any isSpaceOrTab) then none
      let (_, c) := c.takeWhile isSpaceOrTab
      let (lead, c) := c.takeWhile (isTagChar true)
      if lead.isEmpty || !c.blankAhead 0 then none
      some (Token.tagDirective (String.ofList handle) (String.ofList lead), c)
    else none
  let c ← skipComment c
  some (token, c.skipBreak)

/-! ## The whole text -/

/-- A place that may turn out to be that of a key. -/
structure PossibleKey where
  /-- Whether it has to be one. -/
  required : Bool
  /-- The number of tokens before it. -/
  position : Nat
  index : Nat
  line : Nat
  column : Nat

/-- What is known in the middle of a text. -/
structure Lexer where
  cursor : Cursor
  tokens : Array Token := #[]
  /-- The depth of flow collections. -/
  flow : Nat := 0
  /-- The indentation of the innermost block collection, and of those around it. -/
  indent : Int := -1
  outer : List Int := []
  /-- Whether a key may begin here. -/
  keyAllowed : Bool := true
  /-- The possible key of each flow level, the innermost first. -/
  keys : List (Option PossibleKey) := [none]

namespace Lexer

def push (l : Lexer) (t : Token) : Lexer := { l with tokens := l.tokens.push t }

/-- Gives up the possible key of the innermost level, which must not be a required one. -/
def dropKey (l : Lexer) : Option Lexer :=
  match l.keys with
  | some k :: rest => if k.required then none else some { l with keys := none :: rest }
  | _ => some l

/-- Notes that a key may begin here. -/
def noteKey (l : Lexer) : Option Lexer :=
  if l.keyAllowed then
    (l.dropKey).map fun l =>
      let required := l.flow = 0 && l.indent == (l.cursor.column : Int)
      let k : PossibleKey :=
        ⟨required, l.tokens.size, l.cursor.index, l.cursor.line, l.cursor.column⟩
      { l with keys := some k :: l.keys.drop 1 }
  else some l

/-- Gives up the possible keys that are no longer on this line, or too far away. -/
def dropStaleKeys (l : Lexer) : Option Lexer :=
  let stale (k : PossibleKey) : Bool :=
    k.line < l.cursor.line || k.index + 1024 < l.cursor.index
  if l.keys.any fun k? => k?.any fun k => stale k && k.required then none
  else some { l with keys := l.keys.map fun k? => k?.filter fun k => !stale k }

/-- Closes the block collections that are indented deeper than a column. -/
def unroll (column : Int) : (outer : List Int) → Lexer → Lexer
  | [], l =>
    if l.flow = 0 && column < l.indent then { l.push .blockEnd with indent := -1 } else l
  | i :: outer, l =>
    if l.flow = 0 && column < l.indent then
      unroll column outer { l.push .blockEnd with indent := i, outer := outer }
    else l

/-- Opens a block collection at a column, if it is indented deeper than the one around it. -/
def roll (l : Lexer) (column : Nat) (position : Nat) (t : Token) : Lexer :=
  if l.flow = 0 && l.indent < (column : Int) then
    { l with
      outer := l.indent :: l.outer
      indent := column
      tokens := l.tokens.insertIdxIfInBounds position t }
  else l

/-- Moves over blanks, comments and ends of lines. -/
def skipToToken : (fuel : Nat) → Lexer → Lexer
  | 0, l => l
  | fuel + 1, l =>
    let (_, c) := l.cursor.takeWhile fun x =>
      x == ' ' || (x == '\t' && (l.flow > 0 || !l.keyAllowed))
    let c := if c.sees '#' then (c.takeWhile fun x => !isBreak x).2 else c
    if c.peek?.any isBreak then
      skipToToken fuel
        { l with cursor := c.skipBreak, keyAllowed := l.keyAllowed || l.flow = 0 }
    else { l with cursor := c }

/-- A token of one character. -/
def single (l : Lexer) (t : Token) (keyAllowed : Bool) : Lexer :=
  { l.push t with cursor := l.cursor.skip, keyAllowed := keyAllowed }

/-- A token that was read from the text and may begin a key. -/
def content (l : Lexer) (scan : Cursor → Scan Token) : Option Lexer := do
  let l ← l.noteKey
  let (t, c) ← scan l.cursor
  some { l.push t with cursor := c, keyAllowed := false }

/-- The colon behind a key. -/
def colon (l : Lexer) : Option Lexer :=
  match l.keys with
  | some k :: rest =>
    let l := { l with keys := none :: rest, tokens := l.tokens.insertIdxIfInBounds k.position .key }
    some ((l.roll k.column k.position .blockMappingStart).single .value false)
  | _ =>
    if l.flow > 0 then some (l.single .value false)
    else if l.keyAllowed then
      some ((l.roll l.cursor.column l.tokens.size .blockMappingStart).single .value true)
    else none

/-- The tokens that stand on a line of their own: directives and document marks. -/
def marker (l : Lexer) (scan : Cursor → Scan Token) : Option Lexer := do
  let l ← (unroll (-1) l.outer l).dropKey
  let (t, c) ← scan l.cursor
  some { l.push t with cursor := c, keyAllowed := false }

/-- Whether a plain scalar can begin here. -/
def startsPlain (l : Lexer) (x : Char) : Bool :=
  if x == '-' then !(l.cursor.peek? 1).any isSpaceOrTab
  else if x == '?' || x == ':' then l.flow = 0 && !l.cursor.blankAhead 1
  else !("-?:,[]#&*!|>'\"%@`\x7b\x7d".toList.contains x)

/-- Reads the token that begins here. -/
def token (l : Lexer) (x : Char) : Option Lexer :=
  let c := l.cursor
  if c.column = 0 && x == '%' then l.marker directive
  else if c.atDocumentMark then
    l.marker fun c => some (if x == '-' then .documentStart else .documentEnd, c.skip 3)
  else if x == '[' || x == '\x7b' then do
    let l ← l.noteKey
    let t := if x == '[' then Token.flowSequenceStart else .flowMappingStart
    some { l.single t true with flow := l.flow + 1, keys := none :: l.keys }
  else if x == ']' || x == '\x7d' then do
    let l ← l.dropKey
    let t := if x == ']' then Token.flowSequenceEnd else .flowMappingEnd
    let keys := if l.flow > 0 then l.keys.drop 1 else l.keys
    some { l.single t false with flow := l.flow - 1, keys := keys }
  else if x == ',' then do
    let l ← l.dropKey
    some (l.single .flowEntry true)
  else if x == '-' && c.blankAhead 1 then do
    if l.flow = 0 && !l.keyAllowed then none
    let l ← (l.roll c.column l.tokens.size .blockSequenceStart).dropKey
    some (l.single .blockEntry true)
  else if x == '?' && (l.flow > 0 || c.blankAhead 1) then do
    if l.flow = 0 && !l.keyAllowed then none
    let l ← (l.roll c.column l.tokens.size .blockMappingStart).dropKey
    some (l.single .key (l.flow = 0))
  else if x == ':' && (l.flow > 0 || c.blankAhead 1) then l.colon
  else if x == '*' then l.content fun c => (anchorName c).map fun (n, c) => (.alias n, c)
  else if x == '&' then l.content fun c => (anchorName c).map fun (n, c) => (.anchor n, c)
  else if x == '!' then l.content tagToken
  else if (x == '|' || x == '>') && l.flow = 0 then do
    let l ← l.dropKey
    let (t, c) ← blockScalar (x == '|') l.indent l.cursor
    some { l.push t with cursor := c, keyAllowed := true }
  else if x == '\'' then l.content (quotedScalar false)
  else if x == '"' then l.content (quotedScalar true)
  else if l.startsPlain x then do
    let l ← l.noteKey
    let ((t, broken), c) ← plainScalar (l.flow > 0) (l.indent + 1).toNat l.cursor
    some { l.push t with cursor := c, keyAllowed := broken }
  else none

/-- Reads token after token up to the end of the text. -/
def run : (fuel : Nat) → Lexer → Option (Array Token)
  | 0, _ => none
  | fuel + 1, l =>
    match (skipToToken (l.cursor.rest.length + 1) l).dropStaleKeys with
    | none => none
    | some l =>
      let l := unroll l.cursor.column l.outer l
      match l.cursor.peek? with
      | none => ((unroll (-1) l.outer l).dropKey).map (·.tokens)
      | some x => (l.token x).bind (run fuel)

end Lexer

/-- The tokens that some characters spell; none if they are no YAML. -/
def tokens? (text : List Char) : Option (Array Token) :=
  if text.all isAllowed then
    Lexer.run (text.length + 2) { cursor := { rest := text } }
  else none

end TechniqueScan.Document.Yaml
