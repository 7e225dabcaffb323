import TechniqueScan.Document.Value

/-!
Reading JSON. The reader hands back everything up to the first error, and whether there was one:
whoever reads data out of the document may find a fault that stands before it.
-/

namespace TechniqueScan.Document.Json

/-- A part that was read, and the rest of the text; no rest if the text is no JSON from there on. -/
structure Step (α : Type) where
  value : α
  rest? : Option (List Char)

def isSpace (c : Char) : Bool := c == ' ' || c == '\n' || c == '\t' || c == '\r'

def skipSpace (cs : List Char) : List Char := cs.dropWhile isSpace

/-! ## Numbers -/

/-- The deepest nesting of lists and tables. -/
def maxDepth : Nat := 127

/-- The greatest power of ten that double precision is scaled by in one step. -/
def maxPower : Nat := 308

/--
A number in double precision from its leading digits and a decimal exponent. Small exponents take
several divisions; too large a number is none.
-/
def scaledReal? (significand : Nat) (exponent : Int) : Option Float :=
  let power (n : Nat) : Float := Float.ofScientific 1 false n
  let digits := Float.ofNat significand
  if 0 ≤ exponent then
    if significand = 0 then some 0.0
    else if maxPower < exponent.natAbs then none
    else
      let x := digits * power exponent.natAbs
      if x.isInf then none else some x
  else
    let steps := (exponent.natAbs - 1) / maxPower
    if 3 ≤ steps then some 0.0
    else
      let start := (List.range steps).foldl (fun x _ => x / power maxPower) digits
      some (start / power (exponent.natAbs - steps * maxPower))

/-- The digits that a word of 64 bits holds, and how many digits are left over. -/
def significandOf (digits : List Char) : Nat × Nat :=
  go 0 digits
where
  go (n : Nat) : List Char → Nat × Nat
    | [] => (n, 0)
    | c :: cs =>
      let next := 10 * n + (c.toNat - 48)
      if next < 1 <<< 64 then go next cs else (n, cs.length + 1)

/-- The scalar of a whole number; one beyond 64 bits is read as a real. -/
def wholeScalar (negative : Bool) (digits : List Char) : Scalar :=
  let n : Nat := digits.foldl (fun n c => 10 * n + (c.toNat - 48)) 0
  if !negative && n < 1 <<< 64 then .integer n
  else if negative && 0 < n && n ≤ 1 <<< 63 then .integer (-(n : Int))
  else
    let (significand, left) := significandOf digits
    match scaledReal? significand left with
    | some x => .real (if negative then -x else x)
    | none => .outOfRange

/-- The scalar of a number with a fraction or an exponent. -/
def realScalar (negative : Bool) (whole fraction : List Char) (exponent : Int) : Scalar :=
  let (significand, left) := significandOf (whole ++ fraction)
  match scaledReal? significand (exponent - (fraction.length : Int) + (left : Int)) with
  | some x => .real (if negative then -x else x)
  | none => .outOfRange

/-- The exponent behind its mark. -/
def exponentPart? (cs : List Char) : Option (Int × List Char) :=
  let (negative, cs) := match cs with
    | '-' :: rest => (true, rest)
    | '+' :: rest => (false, rest)
    | _ => (false, cs)
  let digits := cs.takeWhile Char.isDigit
  if digits.isEmpty then none
  else
    let n := digits.foldl (fun n c => Nat.min (10 * n + (c.toNat - 48)) (1 <<< 31)) 0
    some (if negative then -(n : Int) else n, cs.dropWhile Char.isDigit)

/-- A number, its sign already read. -/
def number? (negative : Bool) (cs : List Char) : Option (Scalar × List Char) :=
  let whole := cs.takeWhile Char.isDigit
  let rest := cs.dropWhile Char.isDigit
  if whole.isEmpty || (whole.length > 1 && whole.head? == some '0') then none
  else
    let mark (c : Char) : Bool := c == 'e' || c == 'E'
    match rest with
    | '.' :: tail =>
      let fraction := tail.takeWhile Char.isDigit
      if fraction.isEmpty then none
      else
        match tail.dropWhile Char.isDigit with
        | c :: more =>
          if mark c then
            (exponentPart? more).map fun (e, r) => (realScalar negative whole fraction e, r)
          else some (realScalar negative whole fraction 0, c :: more)
        | [] => some (realScalar negative whole fraction 0, [])
    | c :: more =>
      if mark c then (exponentPart? more).map fun (e, r) => (realScalar negative whole [] e, r)
      else some (wholeScalar negative whole, rest)
    | [] => some (wholeScalar negative whole, [])

/-! ## Texts -/

def hexDigit? (c : Char) : Option Nat :=
  if '0' ≤ c ∧ c ≤ '9' then some (c.toNat - 48)
  else if 'a' ≤ c ∧ c ≤ 'f' then some (c.toNat - 87)
  else if 'A' ≤ c ∧ c ≤ 'F' then some (c.toNat - 55)
  else none

/-- Four hexadecimal digits. -/
def hexUnit? : List Char → Option (Nat × List Char)
  | a :: b :: c :: d :: rest => do
    let a ← hexDigit? a
    let b ← hexDigit? b
    let c ← hexDigit? c
    let d ← hexDigit? d
    some (((a * 16 + b) * 16 + c) * 16 + d, rest)
  | _ => none

/-- The character of an escape, the backslash already read. Surrogates come in pairs. -/
def escape? : List Char → Option (Char × List Char)
  | '"' :: rest => some ('"', rest)
  | '\\' :: rest => some ('\\', rest)
  | '/' :: rest => some ('/', rest)
  | 'b' :: rest => some ('\x08', rest)
  | 'f' :: rest => some ('\x0c', rest)
  | 'n' :: rest => some ('\n', rest)
  | 'r' :: rest => some ('\r', rest)
  | 't' :: rest => some ('\t', rest)
  | 'u' :: rest =>
    (hexUnit? rest).bind fun (unit, rest) =>
      if 0xdc00 ≤ unit ∧ unit ≤ 0xdfff then none
      else if 0xd800 ≤ unit ∧ unit ≤ 0xdbff then
        match rest with
        | '\\' :: 'u' :: more =>
          (hexUnit? more).bind fun (low, more) =>
            if 0xdc00 ≤ low ∧ low ≤ 0xdfff then
              some (Char.ofNat (0x10000 + (unit - 0xd800) * 0x400 + (low - 0xdc00)), more)
            else none
        | _ => none
      else some (Char.ofNat unit, rest)
  | _ => none

/-- The characters of a text up to its closing quote, the opening one already read. -/
def textBody? (cs : List Char) : Option (String × List Char) :=
  go cs.length [] cs
where
  go : Nat → List Char → List Char → Option (String × List Char)
    | 0, _, _ => none
    | fuel + 1, done, cs =>
      match cs with
      | [] => none
      | '"' :: rest => some (String.ofList done.reverse, rest)
      | '\\' :: rest => (escape? rest).bind fun (c, rest) => go fuel (c :: done) rest
      | c :: rest => if c.toNat < 0x20 then none else go fuel (c :: done) rest

/-! ## Lists and tables -/

/-- The items of a list, its opening bracket already read; `first` before any item. -/
def listItems (item : List Char → Step (Option Value)) :
    (fuel : Nat) → (first : Bool) → (done : List Value) → List Char → Step Value
  | 0, _, done, _ => ⟨.list true done.reverse, none⟩
  | fuel + 1, first, done, cs =>
    let stopped : Step Value := ⟨.list true done.reverse, none⟩
    let next (cs : List Char) : Step Value :=
      match item cs with
      | ⟨some v, some rest⟩ => listItems item fuel false (v :: done) rest
      | ⟨some v, none⟩ => ⟨.list true (v :: done).reverse, none⟩
      | ⟨none, _⟩ => stopped
    match skipSpace cs with
    | ']' :: rest => ⟨.list true done.reverse, some rest⟩
    | ',' :: rest => if first then stopped else
      match skipSpace rest with
      | ']' :: _ => stopped
      | more => next more
    | more => if first then next more else stopped

/-- The entries of a table, its opening brace already read; `first` before any entry. -/
def tableEntries (item : List Char → Step (Option Value)) :
    (fuel : Nat) → (first : Bool) → (done : List (Value × Value)) → List Char → Step Value
  | 0, _, done, _ => ⟨.table done.reverse, none⟩
  | fuel + 1, first, done, cs =>
    let stopped : Step Value := ⟨.table done.reverse, none⟩
    let next (cs : List Char) : Step Value :=
      match cs with
      | '"' :: rest =>
        match textBody? rest with
        | none => stopped
        | some (key, rest) =>
          match skipSpace rest with
          | ':' :: rest =>
            match item rest with
            | ⟨some v, some rest⟩ => tableEntries item fuel false ((.text key, v) :: done) rest
            | ⟨some v, none⟩ => ⟨.table ((.text key, v) :: done).reverse, none⟩
            | ⟨none, _⟩ => stopped
          | _ => stopped
      | _ => stopped
    match skipSpace cs with
    | '\x7d' :: rest => ⟨.table done.reverse, some rest⟩
    | ',' :: rest => if first then stopped else next (skipSpace rest)
    | more => if first then next more else stopped

/-- A value nested at most `depth` deep; none if not even its beginning can be read. -/
def value : (depth : Nat) → List Char → Step (Option Value)
  | depth, cs =>
    let scalar (s : Scalar) (rest : List Char) : Step (Option Value) := ⟨some (.scalar s), some rest⟩
    let failed : Step (Option Value) := ⟨none, none⟩
    let numeric (negative : Bool) (cs : List Char) : Step (Option Value) :=
      match number? negative cs with
      | some (s, rest) => scalar s rest
      | none => failed
    match skipSpace cs with
    | 'n' :: 'u' :: 'l' :: 'l' :: rest => scalar .null rest
    | 't' :: 'r' :: 'u' :: 'e' :: rest => scalar (.bool true) rest
    | 'f' :: 'a' :: 'l' :: 's' :: 'e' :: rest => scalar (.bool false) rest
    | '"' :: rest =>
      match textBody? rest with
      | some (s, rest) => scalar (.text s) rest
      | none => failed
    | '[' :: rest =>
      match depth with
      | 0 => failed
      | depth + 1 =>
        let r := listItems (value depth) rest.length true [] rest
        ⟨some r.value, r.rest?⟩
    | '\x7b' :: rest =>
      match depth with
      | 0 => failed
      | depth + 1 =>
        let r := tableEntries (value depth) rest.length true [] rest
        ⟨some r.value, r.rest?⟩
    | '-' :: rest => numeric true rest
    | c :: rest => if c.isDigit then numeric false (c :: rest) else failed
    | [] => failed

/-- A document as far as it can be read, and whether it is JSON to the end. -/
structure Reading where
  value : Value
  complete : Bool

/-- Reads a document. -/
def read (s : String) : Option Reading :=
  match value maxDepth s.toList with
  | ⟨some v, some rest⟩ => some ⟨v, (skipSpace rest).isEmpty⟩
  | ⟨some v, none⟩ => some ⟨v, false⟩
  | ⟨none, _⟩ => none

/-- Reads a document that is JSON to the end. -/
def read? (s : String) : Option Value :=
  (read s).bind fun r => if r.complete then some r.value else none

end TechniqueScan.Document.Json
