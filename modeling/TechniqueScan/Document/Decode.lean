import TechniqueScan.Document.Plain

/-!
Reading typed data out of a document. A reader may find several faults; the one that stands first
in the document is the one it reports.
-/

namespace TechniqueScan.Document

/-- Why the text of a number was refused. -/
inductive NumberFault where
  | empty
  | invalidDigit
  | overflow
  deriving DecidableEq, Repr

/-- Why a document was refused. -/
inductive Refusal where
  /-- It is not of the required shape. -/
  | shape
  /-- A text that should be a number is none. -/
  | number (text : String) (fault : NumberFault)
  deriving DecidableEq, Repr

/-- A refusal and where it arose, as the indices that lead from the root to it. -/
structure Fault where
  position : List Nat
  cause : Refusal
  deriving DecidableEq, Repr

/-- Whether one position comes before another in the order of the text. -/
def precedes : List Nat → List Nat → Bool
  | [], _ => true
  | _ :: _, [] => false
  | a :: as, b :: bs => if a = b then precedes as bs else a < b

/-- The fault that stands first. -/
def Fault.earlier (a b : Fault) : Fault := if precedes a.position b.position then a else b

/-- A value that was read, or the first fault met. -/
inductive Decoded (α : Type) where
  | ok (a : α)
  | refused (f : Fault)

namespace Decoded

variable {α β : Type}

def map (f : α → β) : Decoded α → Decoded β
  | ok a => ok (f a)
  | refused e => refused e

/-- Reads two parts side by side; of two faults the earlier one counts. -/
def ap : Decoded (α → β) → Decoded α → Decoded β
  | ok f, ok a => ok (f a)
  | ok _, refused e => refused e
  | refused e, ok _ => refused e
  | refused e, refused e' => refused (e.earlier e')

/-- Reads a part on, once it is known. -/
def andThen : Decoded α → (α → Decoded β) → Decoded β
  | ok a, f => f a
  | refused e, _ => refused e

instance : Functor Decoded := ⟨map, fun a d => map (fun _ => a) d⟩
instance : Seq Decoded := ⟨fun f a => ap f (a ())⟩

/-- A fault inside the part with an index. -/
def within (i : Nat) : Decoded α → Decoded α
  | ok a => ok a
  | refused e => refused { e with position := i :: e.position }

def toOption : Decoded α → Option α
  | ok a => some a
  | refused _ => none

end Decoded

/-- The document is not of the required shape. -/
def wrongShape {α : Type} : Decoded α := .refused ⟨[], .shape⟩

/-- What can be read, or a document of the wrong shape. -/
def orWrongShape {α : Type} : Option α → Decoded α
  | some a => .ok a
  | none => wrongShape

namespace Value

/-! ## Scalars -/

/-- A text. A scalar of YAML is taken as it is spelt. -/
def asText : Value → Decoded String
  | .scalar (.text s) => .ok s
  | .scalar (.spelt _ _ s) => .ok s
  | _ => wrongShape

/-- The type a scalar has of itself. -/
def resolved? : Value → Option Scalar
  | .scalar s => s.resolve?
  | _ => none

/-- Whether a scalar can be kept without knowing what it is for. -/
def isKeepableScalar (s : Scalar) : Bool :=
  match s.resolve? with
  | some (.integer i) => -(1 <<< 63 : Nat) ≤ i && i < (1 <<< 64 : Nat)
  | some _ => true
  | none => false

mutual

/-- Whether a value can be kept without knowing what it is for. -/
def isKeepable : Value → Bool
  | .scalar s => isKeepableScalar s
  | .list _ vs => areKeepable vs
  | .table es => areKeepableEntries es

def areKeepable : List Value → Bool
  | [] => true
  | v :: vs => isKeepable v && areKeepable vs

def areKeepableEntries : List (Value × Value) → Bool
  | [] => true
  | (k, v) :: es => isKeepable k && isKeepable v && areKeepableEntries es

end

/-- The whole number a scalar is for a reader that wants one. -/
def integer? : Value → Option Int
  | .scalar (.integer i) => some i
  | .scalar s => (s.spellingFor? .integer).bind fun spelling => integerWord? spelling.toList
  | _ => none

/-- A natural number below a bound. -/
def asNatural (bound : Nat) (v : Value) : Decoded Nat :=
  match v.integer? with
  | some i => if 0 ≤ i ∧ i < bound then .ok i.toNat else wrongShape
  | none => wrongShape

/-- An unsigned word of 64 bits. -/
def asWord (v : Value) : Decoded Nat := v.asNatural (1 <<< 64)

/-- A number; whole ones of 64 bits are numbers too. -/
def asReal : Value → Decoded Float
  | .scalar (.real x) => .ok x
  | .scalar (.integer i) =>
    if -(1 <<< 63 : Nat) ≤ i ∧ i < (1 <<< 64 : Nat) then .ok (Float.ofInt i) else wrongShape
  | .scalar s => orWrongShape ((s.spellingFor? .real).bind realWord?)
  | _ => wrongShape

/-- A truth value. -/
def asBool : Value → Decoded Bool
  | .scalar (.bool b) => .ok b
  | .scalar s => orWrongShape ((s.spellingFor? .bool).bind boolWord?)
  | _ => wrongShape

/-- A value that may be absent. What is marked as null has to be a word for it. -/
def asOptional {α : Type} (read : Value → Decoded α) (v : Value) : Decoded (Option α) :=
  match v with
  | .scalar .null => .ok none
  | .scalar (.spelt .plain .unmarked s) =>
    if s.isEmpty || isNullWord s then .ok none else some <$> read v
  | .scalar (.spelt .plain .null s) => if isNullWord s then .ok none else wrongShape
  | _ => some <$> read v

/--
One of a few named alternatives. As a table, the name stands alone with null beside it; as a tag,
before nothing or null.
-/
def asName {α : Type} (ofName? : String → Option α) : Value → Decoded α
  | .table [(.scalar (.text s), .scalar .null)] => orWrongShape (ofName? s)
  | .table _ => wrongShape
  | .scalar (.spelt .plain (.variant name) s) =>
    if s.isEmpty || isNullWord s then orWrongShape (ofName? name) else wrongShape
  | .scalar (.spelt _ (.variant _) _) => wrongShape
  | v => v.asText.andThen fun s => orWrongShape (ofName? s)

/-! ## Lists -/

/-- Reads the items from an index on. -/
def readItems {α : Type} (read : Value → Decoded α) : (i : Nat) → List Value → Decoded (List α)
  | _, [] => .ok []
  | i, v :: vs => .ap (List.cons <$> (read v).within i) (readItems read (i + 1) vs)

/-- A list of values of one kind. -/
def asList {α : Type} (read : Value → Decoded α) : Value → Decoded (List α)
  | .list _ vs => readItems read 0 vs
  | _ => wrongShape

/-! ## Tables -/

/-- The text of a key. -/
def keyText? : Value → Option String
  | .scalar (.text s) => some s
  | .scalar (.spelt _ _ s) => some s
  | _ => none

/-- Reads the entries from an index on. -/
def readEntries {κ α : Type} (key : Value → Decoded κ) (read : Value → Decoded α) :
    (i : Nat) → List (Value × Value) → Decoded (List (κ × α))
  | _, [] => .ok []
  | i, (k, v) :: rest =>
    .ap (.ap ((fun k v r => (k, v) :: r) <$> (key k).within i) ((read v).within i))
      (readEntries key read (i + 1) rest)

/-- A table of keys and values of one kind each. -/
def asTable {κ α : Type} (key : Value → Decoded κ) (read : Value → Decoded α) :
    Value → Decoded (List (κ × α))
  | .table entries => readEntries key read 0 entries
  | _ => wrongShape

end Value

/-! ## Records -/

/-- The fields found in a document for a record. -/
structure Record where
  /-- Where each known field stands. -/
  entries : List (String × Nat × Value)
  /-- The entries with other keys, and where they stand. -/
  others : List (Nat × Value × Value)
  /-- The position behind the last entry. -/
  size : Nat
  /-- Whether the fields were given by position. -/
  positional : Bool

/-- Where the known fields of a table stand; no name may come twice, and every key is a text. -/
def knownEntries (names : List String) :
    (i : Nat) → List (Value × Value) → (seen : List String) →
    Decoded (List (String × Nat × Value))
  | _, [], _ => .ok []
  | i, (k, v) :: rest, seen =>
    match k.keyText? with
    | none => .refused ⟨[i], .shape⟩
    | some name =>
      if names.contains name then
        if seen.contains name then .refused ⟨[i], .shape⟩
        else ((name, i, v) :: ·) <$> knownEntries names (i + 1) rest (name :: seen)
      else knownEntries names (i + 1) rest seen

/-- The entries of a table whose keys are not among the names. -/
def otherEntries (names : List String) (entries : List (Value × Value)) :
    List (Nat × Value × Value) :=
  (entries.zipIdx.map fun (e, i) => (i, e)).filter fun (_, k, _) =>
    !(k.keyText?.any names.contains)

/-- The fields of a record with these names; entries with other keys are kept aside. -/
def Value.asRecord (names : List String) : Value → Decoded Record
  | .table entries =>
    (⟨·, otherEntries names entries, entries.length, false⟩) <$> knownEntries names 0 entries []
  | .list true vs =>
    if vs.length ≤ names.length then
      .ok ⟨(names.zip vs).zipIdx.map fun ((n, v), i) => (n, i, v), [], vs.length, true⟩
    else .refused ⟨[names.length], .shape⟩
  | _ => wrongShape

/-- The fields of a record that tolerates no other keys. -/
def Value.asStrictRecord (names : List String) (v : Value) : Decoded Record :=
  (v.asRecord names).andThen fun r => if r.others.isEmpty then .ok r else wrongShape

namespace Record

variable {α : Type}

/-- The field with a name. -/
def find? (r : Record) (name : String) : Option (Nat × Value) :=
  (r.entries.find? fun (n, _) => n = name).map (·.2)

/-- A field that has to be there. -/
def required (r : Record) (name : String) (read : Value → Decoded α) : Decoded α :=
  match r.find? name with
  | some (i, v) => (read v).within i
  | none => .refused ⟨[r.size], .shape⟩

/-- A field with a default. -/
def withDefault (r : Record) (name : String) (default : α) (read : Value → Decoded α) : Decoded α :=
  match r.find? name with
  | some (i, v) => (read v).within i
  | none => .ok default

/-- A field that may be absent or null. -/
def optional (r : Record) (name : String) (read : Value → Decoded α) : Decoded (Option α) :=
  r.withDefault name none (Value.asOptional read)

/-- A field that may be null, and absent unless the fields are given by position. -/
def nullable (r : Record) (name : String) (read : Value → Decoded α) : Decoded (Option α) :=
  if r.positional then r.required name (Value.asOptional read) else r.optional name read

end Record

end TechniqueScan.Document
