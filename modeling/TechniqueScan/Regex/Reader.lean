import TechniqueScan.Regex.Basic

/-!
Reading regular expressions. Every text either denotes an expression or is refused; there are no
look-around conditions and no back-references.
-/

namespace TechniqueScan.Regex

open Text

/-- The flags in force at a place of an expression. -/
structure Flags where
  caseless : Bool := false
  multiLine : Bool := false
  dotAll : Bool := false
  unicode : Bool := true
  returns : Bool := false
  verbose : Bool := false

/-- A place in the text of an expression. -/
structure Place where
  rest : List Char
  flags : Flags := {}
  /-- The names of groups so far. -/
  names : List String := []

/-- What was read, and where the text goes on; nothing if it is no expression. -/
abbrev Read (α : Type) : Type := Option (α × Place)

namespace Place

/-- Moves over the rest of a comment. -/
def skipComment : List Char → List Char
  | [] => []
  | c :: cs => if c = '\n' then cs else skipComment cs

/-- The text without blanks and comments in front. -/
def withoutSpace : (fuel : Nat) → List Char → List Char
  | 0, cs => cs
  | fuel + 1, cs =>
    match cs with
    | '#' :: rest => withoutSpace fuel (skipComment rest)
    | c :: rest => if isBlankChar c then withoutSpace fuel rest else cs
    | [] => []
where
  isBlankChar (c : Char) : Bool := (CharClass.spaces true).contains c.toNat

/-- In verbose mode, moves over blanks and comments. -/
def skipSpace (p : Place) : Place :=
  if p.flags.verbose then { p with rest := withoutSpace (p.rest.length + 1) p.rest } else p

/-- Moves over a character, and in verbose mode over blanks behind it. -/
def next (p : Place) : Place := { p with rest := p.rest.drop 1 }.skipSpace

end Place

/-! ## Pieces of classes and literals -/

/-- A class of single characters or of their other cases as well. -/
def withCases (flags : Flags) (c : CharClass) : CharClass :=
  if !flags.caseless then c
  else if flags.unicode then c.ignoringCase
  else
    -- Without the larger alphabet only the letters of ASCII have another case.
    let ascii : CharClass := ⟨[(0x41, 0x5a), (0x61, 0x7a)]⟩
    let moved (first target : Nat) : List (Nat × Nat) :=
      (c.inter ⟨[(first, first + 25)]⟩).ranges.map fun (a, b) =>
        (a - first + target, b - first + target)
    if (c.inter ascii).ranges.isEmpty then c
    else .ofRanges (c.ranges ++ moved 0x41 0x61 ++ moved 0x61 0x41)

/-- The greatest code that a complement reaches up to. -/
def lastCodeOf (flags : Flags) : Nat := if flags.unicode then CharClass.lastCode else 0xff

/-- A class, refused if it reaches beyond ASCII where only bytes are meant. -/
def admissible? (flags : Flags) (c : CharClass) : Option CharClass :=
  if flags.unicode || c.isAscii then some c else none

/-- A class, or its complement, with other cases where case does not matter. -/
def foldAndNegate (flags : Flags) (negated : Bool) (c : CharClass) : CharClass :=
  let c := withCases flags c
  if negated then c.complement (lastCodeOf flags) else c

/-- The simple value of an escape or of a character. -/
inductive Atom where
  | literal (code : Nat)
  | set (c : CharClass)
  | look (l : Look)

/-- The digits of a number in hexadecimal, one after the other. -/
def hexFixed : (count : Nat) → (n : Nat) → Place → Read Nat
  | 0, n, p => some (n, p)
  | count + 1, n, p =>
    match p.rest with
    | c :: rest =>
      match hexDigitValue? c with
      | some d =>
        let p' : Place := { p with rest := rest }
        hexFixed count (16 * n + d) (if count = 0 then p' else p'.skipSpace)
      | none => none
    | [] => none

/-- Hexadecimal digits up to a closing brace. -/
def hexBraced : (fuel : Nat) → (digits : Nat) → (n : Nat) → Place → Read Nat
  | 0, _, _, _ => none
  | fuel + 1, digits, n, p =>
    match p.rest with
    | '\x7d' :: rest => if digits = 0 then none else some (n, { p with rest := rest })
    | c :: _ =>
      match hexDigitValue? c with
      | some d => hexBraced fuel (digits + 1) (Nat.min (16 * n + d) 0x110000) p.next
      | none => none
    | [] => none

/-- A character given by its code; `width` digits unless there are braces. -/
def hexAtom (width : Nat) (p : Place) : Option (Atom × Place) := do
  let p := p.skipSpace
  let (n, p) ← match p.rest with
    | '\x7b' :: _ => hexBraced (p.rest.length + 1) 0 0 p.next
    | _ => hexFixed width 0 p
  if (0xd800 ≤ n ∧ n ≤ 0xdfff) ∨ CharClass.lastCode < n then none
  else some (.literal n, p)

/-- The position of a separator in a name: what stands before it and after it. -/
def splitAt? (separator : List Char) : List Char → Option (List Char × List Char)
  | [] => none
  | c :: cs =>
    if separator.isPrefixOf (c :: cs) then some ([], (c :: cs).drop separator.length)
    else (splitAt? separator cs).map fun (a, b) => (c :: a, b)

/-- A class given by the name, or by the value, of a property. -/
def propertyClass (flags : Flags) (negated : Bool) (name : List Char) : Option CharClass :=
  if !flags.unicode then none
  else
    match splitAt? ['!', '='] name, splitAt? [':'] name, splitAt? ['='] name with
    | some (p, v), _, _ => (CharClass.valued? p v).map (foldAndNegate flags !negated)
    | none, some (p, v), _ => (CharClass.valued? p v).map (foldAndNegate flags negated)
    | none, none, some (p, v) => (CharClass.valued? p v).map (foldAndNegate flags negated)
    | none, none, none => (CharClass.named? name).map (foldAndNegate flags negated)

/-- The name between braces. -/
def bracedName : (fuel : Nat) → (done : List Char) → Place → Read (List Char)
  | 0, _, _ => none
  | fuel + 1, done, p =>
    match p.rest with
    | '\x7d' :: rest => some (done.reverse, { p with rest := rest })
    | c :: _ => bracedName fuel (c :: done) p.next
    | [] => none

/-- A class behind the letter for properties. -/
def propertyAtom (negated : Bool) (p : Place) : Option (Atom × Place) := do
  let p := p.skipSpace
  let (name, p) ← match p.rest with
    | '\x7b' :: _ => bracedName (p.rest.length + 1) [] p.next
    | '\\' :: _ => none
    | c :: rest => some ([c], { p with rest := rest })
    | [] => none
  let c ← propertyClass p.flags negated name
  some (.set c, p)

/-- One of the classes for digits, spaces and word characters, or its complement. -/
def shorthand (negated : Bool) (flags : Flags) (c : CharClass) : Option Atom :=
  (admissible? flags (if negated then c.complement (lastCodeOf flags) else c)).map .set

/-- Characters with a meaning of their own, which an escape takes away. -/
def isMeta (c : Char) : Bool := "\\.+*?()|[]^$#&-~\x7b\x7d".toList.contains c

/-- Characters that may be escaped without need. -/
def isEscapable (c : Char) : Bool :=
  c.toNat < 0x80 && !c.isAlphanum && c != '<' && c != '>'

/-- The letters of names for conditions on words. -/
def isConditionChar (c : Char) : Bool := c.isAlpha || c == '-'

/-- The name of a condition on words between braces, up to the closing one. -/
def conditionName : (fuel : Nat) → (done : List Char) → Place → Read (List Char)
  | 0, _, _ => none
  | fuel + 1, done, p =>
    match p.rest with
    | '\x7d' :: rest => some (done.reverse, { p with rest := rest })
    | c :: _ => if isConditionChar c then conditionName fuel (c :: done) p.next else none
    | [] => none

/-- The condition of an escape for word boundaries; a repetition may follow it instead of a name. -/
def boundary (p : Place) : Read Atom :=
  let unicode := p.flags.unicode
  let plain : Read Atom := some (.look (.wordBoundary unicode), p)
  match p.rest with
  | '\x7b' :: _ =>
    let inner := p.next
    match inner.rest with
    | [] => none
    | c :: _ =>
      if isConditionChar c then
        (conditionName (inner.rest.length + 1) [] inner).bind fun (name, p) =>
          match String.ofList name with
          | "start" => some (.look (.wordStart unicode), p)
          | "end" => some (.look (.wordEnd unicode), p)
          | "start-half" => some (.look (.wordStartHalf unicode), p)
          | "end-half" => some (.look (.wordEndHalf unicode), p)
          | _ => none
      else plain
  | _ => plain

/-- What an escape stands for, the backslash already read. -/
def escape (p : Place) : Read Atom :=
  match p.rest with
  | [] => none
  | c :: rest =>
    let flags := p.flags
    let p : Place := { p with rest := rest }
    let literal (n : Nat) : Read Atom := some (.literal n, p)
    let look (l : Look) : Read Atom := some (.look l, p)
    let class? (negated : Bool) (named : Bool → CharClass) : Read Atom :=
      (shorthand negated flags (named flags.unicode)).map fun a => (a, p)
    match c with
    | 'x' => hexAtom 2 p
    | 'u' => hexAtom 4 p
    | 'U' => hexAtom 8 p
    | 'p' => propertyAtom false p
    | 'P' => propertyAtom true p
    | 'd' => class? false CharClass.digits
    | 'D' => class? true CharClass.digits
    | 's' => class? false CharClass.spaces
    | 'S' => class? true CharClass.spaces
    | 'w' => class? false CharClass.words
    | 'W' => class? true CharClass.words
    | 'a' => literal 0x07
    | 'f' => literal 0x0c
    | 't' => literal 0x09
    | 'n' => literal 0x0a
    | 'r' => literal 0x0d
    | 'v' => literal 0x0b
    | 'A' => look .textStart
    | 'z' => look .textEnd
    | 'b' => boundary p
    | 'B' => look (.noWordBoundary flags.unicode)
    | '<' => look (.wordStart flags.unicode)
    | '>' => look (.wordEnd flags.unicode)
    | _ => if isMeta c || isEscapable c then literal c.toNat else none

/-! ## Bracketed classes -/

/-- How the two sides of a class operation combine. -/
inductive ClassOp where
  | inter | diff | symmetricDiff

def ClassOp.apply (op : ClassOp) (flags : Flags) (a b : CharClass) : CharClass :=
  let a := withCases flags a
  let b := withCases flags b
  match op with
  | inter => a.inter b
  | diff => a.diff b
  | symmetricDiff => a.symmetricDiff b

/-- A class under construction: the operation waiting for its right side, and the union so far. -/
structure OpenClass where
  negated : Bool
  waiting : Option (CharClass × ClassOp)
  items : CharClass
  depth : Nat

/-- The class up to here, with the waiting operation carried out. -/
def OpenClass.value (o : OpenClass) (flags : Flags) : CharClass :=
  match o.waiting with
  | some (left, op) => op.apply flags left o.items
  | none => o.items

def OpenClass.add (o : OpenClass) (c : CharClass) : OpenClass := { o with items := o.items.union c }

/-- Characters up to one that is not wanted. -/
def nameBeforeColon (cs : List Char) : List Char × List Char :=
  (cs.takeWhile (· ≠ ':'), cs.dropWhile (· ≠ ':'))

/-- A named class of ASCII characters, the opening bracket not yet read. -/
def asciiClass? (p : Place) : Option (CharClass × Place) :=
  match p.rest with
  | '[' :: ':' :: rest =>
    let (negated, rest) := match rest with
      | '^' :: more => (true, more)
      | _ => (false, rest)
    let (name, rest) := nameBeforeColon rest
    match rest with
    | ':' :: ']' :: more =>
      (CharClass.asciiNamed? (String.ofList name)).map fun c =>
        (foldAndNegate p.flags negated c, { p with rest := more })
    | _ => none
  | _ => none

/-- Hyphens at the beginning of a class, which stand for themselves. -/
def leadingHyphens : (fuel : Nat) → OpenClass → Place → OpenClass × Place
  | 0, o, p => (o, p)
  | fuel + 1, o, p =>
    match p.rest with
    | '-' :: _ => leadingHyphens fuel (o.add (.single '-'.toNat)) p.next
    | _ => (o, p)

/-- The beginning of a class behind its opening bracket. -/
def openClass (p : Place) : Option (OpenClass × Place) :=
  let p := p.next
  let (negated, p) := match p.rest with
    | '^' :: _ => (true, p.next)
    | _ => (false, p)
  let (o, p) := leadingHyphens (p.rest.length + 1) ⟨negated, none, .empty, 1⟩ p
  match p.rest with
  | [] => none
  | ']' :: _ => if o.items.ranges.isEmpty then some (o.add (.single ']'.toNat), p.next) else some (o, p)
  | _ => some (o, p)

/-- A single item of a class: a character or an escape. -/
def classAtom (p : Place) : Read Atom :=
  match p.rest with
  | '\\' :: rest => escape { p with rest := rest }
  | c :: rest => some (.literal c.toNat, { p with rest := rest })
  | [] => none

/-- The class of a literal; only bytes of ASCII count where bytes are meant. -/
def literalClass? (flags : Flags) (n : Nat) : Option CharClass :=
  if flags.unicode || n < 0x80 then some (.single n) else none

/-- An item of a class, or a range between two characters. -/
def classRange (p : Place) : Option (CharClass × Place) := do
  let (first, p) ← classAtom p
  let p := p.skipSpace
  let ahead := p.next.rest.head?
  if p.rest.head? == some '-' && ahead != some ']' && ahead != some '-' then
    let (last, p) ← classAtom p.next
    match first, last with
    | .literal a, .literal b =>
      if a ≤ b && (p.flags.unicode || b < 0x80) then some (⟨[(a, b)]⟩, p) else none
    | _, _ => none
  else if p.rest.isEmpty then none
  else
    match first with
    | .literal n => (literalClass? p.flags n).map (·, p)
    | .set c => some (c, p)
    | .look _ => none

/-- The items of nested classes, the innermost first, up to the end of the outermost one. -/
def classItems : (fuel : Nat) → (current : OpenClass) → (outer : List OpenClass) → Place →
    Read (CharClass × Nat)
  | 0, _, _, _ => none
  | fuel + 1, current, outer, p =>
    let p := p.skipSpace
    let operation (op : ClassOp) : Read (CharClass × Nat) :=
      let left := current.value p.flags
      classItems fuel
        { current with waiting := some (left, op), items := .empty, depth := current.depth + 1 }
        outer { p with rest := p.rest.drop 2 }
    match p.rest with
    | [] => none
    | '[' :: _ =>
      match asciiClass? p with
      | some (c, p) => classItems fuel (current.add c) outer p
      | none => (openClass p).bind fun (o, p) => classItems fuel o (current :: outer) p
    | ']' :: rest =>
      let p : Place := { p with rest := rest }
      match admissible? p.flags (foldAndNegate p.flags current.negated (current.value p.flags)) with
      | none => none
      | some c =>
        match outer with
        | [] => some ((c, current.depth), p)
        | o :: outer =>
          classItems fuel { o.add c with depth := Nat.max o.depth (current.depth + 1) } outer p
    | '&' :: '&' :: _ => operation .inter
    | '-' :: '-' :: _ => operation .diff
    | '~' :: '~' :: _ => operation .symmetricDiff
    | _ => (classRange p).bind fun (c, p) => classItems fuel (current.add c) outer p

/-! ## Expressions -/

/-- A part of an expression, how deep its parts are nested, and how large it is. -/
structure Part where
  expr : Expr
  depth : Nat := 0
  weight : Nat := 1

/-- The deepest nesting of groups, repetitions, classes, sequences and alternatives. -/
def maxDepth : Nat := 250

/-- The largest expression, its repetitions written out: about the states of an automaton for it. -/
def maxWeight : Nat := 10 * 1 <<< 20 / 32

/-- A class; one beyond ASCII takes about two states for each of its ranges. -/
def Part.ofClass (c : CharClass) (depth : Nat) : Part :=
  ⟨.set c.toSet, depth, 1 + (if c.isAscii then c.ranges.length / 4 else 2 * c.ranges.length)⟩

/-- A literal, refused if it is no character where bytes are meant. -/
def Part.literal? (flags : Flags) (n : Nat) (isByte : Bool) : Option Part :=
  if !flags.unicode && isByte && 0x80 ≤ n then none
  else
    let folded := if flags.unicode || n < 0x80 then withCases flags (.single n) else .single n
    some (.ofClass folded 0)

/-- The parts of a sequence in one. -/
def Part.sequence (parts : List Part) : Part :=
  match parts with
  | [] => ⟨.empty, 0, 1⟩
  | [p] => p
  | _ =>
    ⟨parts.foldr (fun p e => .concat p.expr e) .empty,
      1 + (parts.map (·.depth)).foldl Nat.max 0, (parts.map (·.weight)).foldl Nat.add 0⟩

/-- Alternatives in one. -/
def Part.alternatives (parts : List Part) : Part :=
  match parts with
  | [] => ⟨.empty, 0, 1⟩
  | [p] => p
  | first :: rest =>
    ⟨rest.foldl (fun e p => .either e p.expr) first.expr,
      1 + (parts.map (·.depth)).foldl Nat.max 0, (parts.map (·.weight)).foldl Nat.add 0⟩

/-- A repeated part. -/
def Part.times (p : Part) (least : Nat) (most : Option Nat) : Part :=
  let rounds := Nat.max 1 (most.getD least)
  -- A round that may be left out takes a branch of its own.
  ⟨.repeated p.expr least most, p.depth + 1,
    p.weight * rounds + (if most = some least then 0 else rounds)⟩

/-- Sets or clears one flag; none if there is no such flag. -/
def Flags.change? (f : Flags) (c : Char) (on : Bool) : Option Flags :=
  match c with
  | 'i' => some { f with caseless := on }
  | 'm' => some { f with multiLine := on }
  | 's' => some { f with dotAll := on }
  | 'u' => some { f with unicode := on }
  | 'R' => some { f with returns := on }
  | 'x' => some { f with verbose := on }
  | 'U' => some f
  | _ => none

/-- Flags up to a colon or a closing parenthesis, which is not read; and whether there were any. -/
def flagList : (fuel : Nat) → (seen : List Char) → (lastNegation : Bool) → Flags → List Char →
    Option (Flags × Bool × List Char)
  | 0, _, _, _, _ => none
  | fuel + 1, seen, lastNegation, f, cs =>
    match cs with
    | [] => none
    | c :: rest =>
      if c = ':' ∨ c = ')' then
        if lastNegation then none else some (f, !seen.isEmpty, cs)
      else if seen.contains c then none
      else if c = '-' then flagList fuel (c :: seen) true f rest
      else
        (f.change? c !(seen.contains '-')).bind fun f => flagList fuel (c :: seen) false f rest

/-- Whether a character may begin, or stand inside, the name of a group. -/
def isNameChar (first : Bool) (c : Char) : Bool :=
  let isIn (class? : Option CharClass) : Bool := 0x80 ≤ c.toNat && class?.any (·.contains c.toNat)
  let alphabetic := c.isAlpha || isIn (CharClass.lookup? charProperties "alphabetic")
  if first then c == '_' || alphabetic
  else
    c == '_' || c == '.' || c == '[' || c == ']' || alphabetic || c.isDigit
      || isIn (CharClass.category? "n")

/-- The name of a group up to its closing angle; no two groups share one. -/
def groupName (p : Place) : Option Place :=
  let name := p.rest.takeWhile (· ≠ '>')
  match p.rest.dropWhile (· ≠ '>') with
  | _ :: rest =>
    let valid := match name with
      | c :: more => isNameChar true c && more.all (isNameChar false)
      | [] => false
    let text := String.ofList name
    if valid && !p.names.contains text then some { p with rest := rest, names := text :: p.names }
    else none
  | [] => none

/-- A decimal number with blanks around it, of at most 32 bits. -/
def decimal? (cs : List Char) : Option (Option Nat × List Char) :=
  let isSpace (c : Char) : Bool := (CharClass.spaces true).contains c.toNat
  let cs := cs.dropWhile isSpace
  let digits := cs.takeWhile Char.isDigit
  let rest := (cs.dropWhile Char.isDigit).dropWhile isSpace
  if digits.isEmpty then some (none, rest)
  else
    let n : Nat := digits.foldl (fun n c => Nat.min (10 * n + (c.toNat - 48)) (1 <<< 32)) 0
    if n < 1 <<< 32 then some (some n, rest) else none

/-- The bounds of a counted repetition, its opening brace already read. -/
def bounds (p : Place) : Option ((Nat × Option Nat) × Place) := do
  let (least?, rest) ← decimal? p.skipSpace.rest
  match rest with
  | '\x7d' :: rest =>
    let n ← least?
    some ((n, some n), { p with rest := rest })
  | ',' :: _ =>
    let p := { p with rest := rest }.next
    match p.rest with
    | '\x7d' :: rest =>
      let n ← least?
      some ((n, none), { p with rest := rest })
    | _ =>
      let n ← least?
      let (most?, rest) ← decimal? p.rest
      let m ← most?
      match rest with
      | '\x7d' :: rest => if n ≤ m then some ((n, some m), { p with rest := rest }) else none
      | _ => none
  | _ => none

/-- Moves over the mark of a repetition that prefers few rounds; it decides nothing here. -/
def skipLazy (p : Place) : Place :=
  match p.rest with
  | '?' :: rest => { p with rest := rest }
  | _ => p

/-- What a single character outside of classes stands for. -/
def primitive (c : Char) (p : Place) : Read Part :=
  let f := p.flags
  match c with
  | '.' =>
    if !f.unicode then none
    else
      let excluded : CharClass :=
        if f.dotAll then .empty
        else if f.returns then ⟨[(0x0a, 0x0a), (0x0d, 0x0d)]⟩ else ⟨[(0x0a, 0x0a)]⟩
      some (.ofClass (excluded.complement CharClass.lastCode) 0, p)
  | '^' => some (⟨.look (if f.multiLine then .lineStart f.returns else .textStart), 0, 1⟩, p)
  | '$' => some (⟨.look (if f.multiLine then .lineEnd f.returns else .textEnd), 0, 1⟩, p)
  | '\\' =>
    (escape p).bind fun (a, q) =>
      match a with
      | .literal n =>
        let isByte := p.rest.head? == some 'x'
        (Part.literal? f n isByte).map (·, q)
      | .set c => some (.ofClass c 0, q)
      | .look l => some (⟨.look l, 0, 1⟩, q)
  | _ => (Part.literal? f c.toNat false).map (·, p)

/--
Alternatives up to a closing parenthesis or the end of the text. `items` holds the parts of the
current sequence in reverse; a change of flags among them is no part that can be repeated.
-/
def alternatives : (fuel : Nat) → (done : List Part) → (items : List (Option Part)) → Place →
    Read Part
  | 0, _, _, _ => none
  | fuel + 1, done, items, p =>
    let p := p.skipSpace
    let sequence : Part := .sequence (items.reverse.filterMap id)
    let finish : Read Part := some (.alternatives (done.reverse ++ [sequence]), p)
    let repeatLast (least : Nat) (most : Option Nat) (p : Place) : Read Part :=
      match items with
      | some last :: before => alternatives fuel done (some (last.times least most) :: before) (skipLazy p)
      | _ => none
    let group (inner : Place) : Read Part :=
      match alternatives fuel [] [] inner with
      | some (body, q) =>
        match q.rest with
        | ')' :: rest =>
          let part : Part := { body with depth := body.depth + 1 }
          alternatives fuel done (some part :: items) ⟨rest, p.flags, q.names⟩
        | _ => none
      | none => none
    match p.rest with
    | [] => finish
    | ')' :: _ => finish
    | '|' :: rest => alternatives fuel (sequence :: done) [] { p with rest := rest }
    | '(' :: _ =>
      let inner := p.next
      match inner.rest with
      | '?' :: 'P' :: '<' :: rest => (groupName { inner with rest := rest }).bind group
      | '?' :: '<' :: rest =>
        match rest with
        | '=' :: _ => none
        | '!' :: _ => none
        | _ => (groupName { inner with rest := rest }).bind group
      | '?' :: rest =>
        match flagList (rest.length + 1) [] false p.flags rest with
        | some (f, any, ')' :: rest) =>
          if any then alternatives fuel done (none :: items) { p with rest := rest, flags := f }
          else none
        | some (f, _, ':' :: rest) => group { p with rest := rest, flags := f }
        | _ => none
      | _ => group inner
    | '[' :: _ =>
      match openClass p with
      | none => none
      | some (o, q) =>
        match classItems (q.rest.length + 1) o [] q with
        | some ((c, depth), q) => alternatives fuel done (some (.ofClass c depth) :: items) q
        | none => none
    | '?' :: rest => repeatLast 0 (some 1) { p with rest := rest }
    | '*' :: rest => repeatLast 0 none { p with rest := rest }
    | '+' :: rest => repeatLast 1 none { p with rest := rest }
    | '\x7b' :: rest =>
      match bounds { p with rest := rest } with
      | some ((least, most), q) => repeatLast least most q.skipSpace
      | none => none
    | c :: rest =>
      match primitive c { p with rest := rest } with
      | some (part, q) => alternatives fuel done (some part :: items) q
      | none => none

/-- Reads an expression; none if the text is none, or one nested too deeply or too large. -/
def read? (text : String) : Option Expr :=
  match alternatives (2 * text.length + 2) [] [] { rest := text.toList } with
  | some (part, p) =>
    if p.rest.isEmpty && part.depth ≤ maxDepth && part.weight ≤ maxWeight then some part.expr
    else none
  | none => none

end TechniqueScan.Regex

namespace TechniqueScan

/-- A regular expression with the text it was read from. -/
structure Regex where
  source : String
  expr : Regex.Expr

namespace Regex

/-- The regular expression that a text denotes. -/
def ofString? (source : String) : Option Regex := (read? source).map (⟨source, ·⟩)

/-- Whether the expression matches anywhere in a text. -/
def matchesIn (r : Regex) (text : String) : Bool := r.expr.matchesIn text

end Regex

end TechniqueScan
