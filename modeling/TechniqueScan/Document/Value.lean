/-!
The tree that data documents are read into and written from, whatever their format. JSON decides
the type of a scalar where it is written; a plain scalar of YAML keeps its spelling until a reader
asks for a type.
-/

namespace TechniqueScan.Document

/-- How a scalar of YAML is written. -/
inductive Style where
  /-- Without quotes. -/
  | plain
  /-- As a block that keeps its line ends. -/
  | literal
  /-- Between quotes, or as a folded block. -/
  | quoted
  deriving DecidableEq, Repr

/-- What a tag says about the type of a scalar. -/
inductive Mark where
  /-- There is no tag. -/
  | unmarked
  | null
  | bool
  | integer
  | real
  /-- A tag without a meaning of its own; what is marked with it is a text. -/
  | foreign
  /-- A tag that names one of several alternatives. -/
  | variant (name : String)
  deriving DecidableEq, Repr

/-- A scalar of a document. -/
inductive Scalar where
  | null
  | bool (b : Bool)
  | integer (i : Int)
  | real (x : Float)
  /-- A number too large for double precision. -/
  | outOfRange
  | text (s : String)
  /-- A scalar of YAML, which is typed by whoever reads it. -/
  | spelt (style : Style) (mark : Mark) (s : String)

/-- A document, or a part of one. -/
inductive Value where
  | scalar (s : Scalar)
  /-- A list. A positional one may stand for a record whose fields come in order. -/
  | list (positional : Bool) (items : List Value)
  /-- Entries in the order in which they are written, repeated keys included. -/
  | table (entries : List (Value × Value))
  deriving Inhabited

namespace Value

def null : Value := .scalar .null
def bool (b : Bool) : Value := .scalar (.bool b)
def natural (n : Nat) : Value := .scalar (.integer n)
def real (x : Float) : Value := .scalar (.real x)
def text (s : String) : Value := .scalar (.text s)
def items (vs : List Value) : Value := .list false vs

/-- A table with texts as keys. -/
def fields (entries : List (String × Value)) : Value :=
  .table (entries.map fun (k, v) => (.text k, v))

/-- A scalar without quotes and without a tag. -/
def plain (s : String) : Value := .scalar (.spelt .plain .unmarked s)

/-- An optional value, null standing for its absence. -/
def orNull : Option Value → Value
  | some v => v
  | none => null

/-- The entry of a field that is left out when there is nothing to say. -/
def whenSome (key : String) : Option Value → List (String × Value)
  | some v => [(key, v)]
  | none => []

end Value

end TechniqueScan.Document
