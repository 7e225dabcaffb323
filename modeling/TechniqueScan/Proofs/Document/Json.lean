import TechniqueScan.Document.JsonText

/-!
What JSON keeps of a document. It has no text for infinities, and its lists may stand for records;
everything else that is written is there again when it is read.
-/

namespace TechniqueScan.Document

/-- Whether a number is finite. -/
def isFinite (x : Float) : Bool :=
  match Decimal.decode x with
  | .finite _ => true
  | _ => false

/-- What JSON keeps of a scalar. -/
def Scalar.json : Scalar → Scalar
  | .real x => if isFinite x then .real x else .null
  | .outOfRange => .null
  | .spelt _ _ s => .text s
  | s => s

namespace Value

mutual

/-- What JSON keeps of a document, the keys of its tables being texts. -/
def json : Value → Value
  | .scalar s => .scalar s.json
  | .list _ vs => .list true (jsonItems vs)
  | .table es => .table (jsonEntries es)

def jsonItems : List Value → List Value
  | [] => []
  | v :: vs => json v :: jsonItems vs

def jsonEntries : List (Value × Value) → List (Value × Value)
  | [] => []
  | (k, v) :: es => (k, json v) :: jsonEntries es

end

theorem jsonItems_eq_map (vs : List Value) : jsonItems vs = vs.map json := by
  induction vs with
  | nil => rfl
  | cons v vs ih => rw [jsonItems, ih, List.map_cons]

theorem json_fields (entries : List (String × Value)) :
    (fields entries).json = fields (entries.map fun (k, v) => (k, v.json)) := by
  have kept : jsonEntries (entries.map fun (k, v) => (.text k, v)) =
      entries.map fun (k, v) => (.text k, v.json) := by
    induction entries with
    | nil => rfl
    | cons e rest ih => rw [List.map_cons, jsonEntries, ih, List.map_cons]
  rw [fields, json, kept, fields, List.map_map]
  rfl

end Value

/-! ## Writing -/

namespace JsonText

theorem scalar_json (s : Scalar) : scalar s.json = scalar s := by
  cases s with
  | real x =>
    rw [Scalar.json]
    cases finite : isFinite x with
    | true => rfl
    | false =>
      simp only [isFinite] at finite
      simp only [scalar, Decimal.Notation.write, Bool.false_eq_true, if_false]
      cases decoded : Decimal.decode x with
      | finite b => simp [decoded] at finite
      | nan => rfl
      | infinite negative => cases negative <;> rfl
  | _ => rfl

mutual

/-- A document is written as what JSON keeps of it. -/
theorem pretty_json (level : Nat) : (v : Value) → pretty level v.json = pretty level v
  | .scalar s => by simp only [Value.json, pretty, scalar_json]
  | .list _ [] => rfl
  | .list _ (v :: vs) => by
    simp only [Value.json, Value.jsonItems, pretty]
    rw [← prettyItems_json (level + 1) true (v :: vs)]
    rfl
  | .table [] => rfl
  | .table ((k, v) :: es) => by
    simp only [Value.json, Value.jsonEntries, pretty]
    rw [← prettyEntries_json (level + 1) true ((k, v) :: es)]
    rfl

theorem prettyItems_json (level : Nat) (first : Bool) :
    (vs : List Value) → prettyItems level first (Value.jsonItems vs) = prettyItems level first vs
  | [] => rfl
  | v :: vs => by
    simp only [Value.jsonItems, prettyItems, pretty_json level v, prettyItems_json level false vs]

theorem prettyEntries_json (level : Nat) (first : Bool) :
    (es : List (Value × Value)) →
      prettyEntries level first (Value.jsonEntries es) = prettyEntries level first es
  | [] => rfl
  | (k, v) :: es => by
    simp only [Value.jsonEntries, prettyEntries, pretty_json level v, prettyEntries_json level false es]

end

end JsonText

end TechniqueScan.Document
