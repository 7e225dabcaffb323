import TechniqueScan.Arithmetic
import TechniqueScan.Catalogue.Error
import TechniqueScan.Catalogue.File
import TechniqueScan.Text.LowerCase

/-!
Turning the entries of a catalogue file into signatures and rules. Each check names the first
fault it meets; what depends on other entries is checked when all files are known.
-/

namespace TechniqueScan

open Arithmetic

variable {α : Type} [Arithmetic α]

/-- The texts that hold more than blanks, in ascending order, each once. -/
def filledTexts (ts : List String) : List String :=
  ascending (ts.filter fun t => !Text.isBlankText t)

/-- A description, or the identifier where there is none. -/
def describedBy (id description : String) : String :=
  if Text.isBlankText description then id else Text.trim description

namespace StepEntry

def parts : StepEntry → String × Option String
  | mnemonic m => (m, none)
  | detailed m operands => (m, operands)

/-- A step of a window; none if it has no mnemonic. -/
def toStep? (s : StepEntry) : Option OpcodeStep :=
  let mnemonic := Text.toLower (Text.trim s.parts.1)
  let operands := (s.parts.2.map fun o => Text.toLower (Text.trim o)).filter fun o => !o.isEmpty
  if mnemonic.isEmpty then none else some ⟨mnemonic, operands⟩

end StepEntry

/-- The greatest word of 64 bits. -/
def maxWord : UInt64 := UInt64.ofNat (1 <<< 64 - 1)

/-- The range of numbers between bounds, as far as they are given. -/
def NumberEntry.range? (n : NumberEntry) : Option (UInt64 × UInt64) :=
  if n.min.isNone && n.max.isNone then none else some (n.min.getD 0, n.max.getD maxWord)

namespace ClauseEntry

/-- How many kinds of patterns are set. -/
def kindsSet (c : ClauseEntry) : Nat :=
  [c.symbols.isSome, c.strings.isSome, c.regex.isSome, c.numbers.isSome,
    c.opcodes.isSome].countP id

/-- The pattern of the only kind that is set. -/
def pattern (id : String) (c : ClauseEntry) : Except (CatalogueError α) Pattern :=
  let empty : Except (CatalogueError α) Pattern := .error (.emptyPattern id)
  match c.symbols, c.strings, c.regex, c.numbers with
  | some symbols, _, _, _ =>
    let names := filledTexts symbols
    if names.isEmpty then empty else .ok (.names names)
  | none, some strings, _, _ =>
    let texts := filledTexts strings
    if texts.isEmpty then empty else .ok (.needles texts)
  | none, none, some source, _ =>
    if source.isEmpty then empty
    else
      match Regex.ofString? source with
      | some r => .ok (.regex (c.target.getD .string) r)
      | none => .error (.invalidRegex id)
  | none, none, none, some numbers =>
    match numbers.range? with
    | some (low, high) =>
      if high < low then .error (.malformedSignature id .invertedRange)
      else .ok (.numbers ⟨ascending numbers.values, some (low, high)⟩)
    | none =>
      if numbers.values.isEmpty then empty else .ok (.numbers ⟨ascending numbers.values, none⟩)
  | none, none, none, none =>
    let steps := c.opcodes.getD []
    if steps.isEmpty then empty
    else
      match steps.mapM StepEntry.toStep? with
      | some steps => .ok (.window steps)
      | none => empty

/-- The pattern of a clause, which has to set exactly one kind. -/
def validate (id : String) (c : ClauseEntry) : Except (CatalogueError α) Pattern :=
  if c.kindsSet = 0 then .error (.emptyPattern id)
  else if c.kindsSet ≠ 1 then .error (.malformedSignature id .severalKinds)
  else if c.target.isSome && c.regex.isNone then
    .error (.malformedSignature id .targetWithoutRegex)
  else c.pattern id

end ClauseEntry

/-- What an entry without an identifier is called. -/
def unnamed (order : Nat) : String := "<unnamed #" ++ toString order ++ ">"

/-- A weight is more than 0 and at most 1. -/
def isWeight (w : α) : Bool := lt (ofNat 0) w && le w (ofNat 1)

/-- A boost is at least 0 and less than 1. -/
def isBoost (b : α) : Bool := le (ofNat 0) b && lt b (ofNat 1)

/-- The signature of an entry at a position of the catalogue. -/
def SignatureEntry.validate (e : SignatureEntry α) (category : Category) (order : Nat) :
    Except (CatalogueError α) (Signature α) :=
  let id := Text.trim e.id
  if id.isEmpty then .error (.malformedSignature (unnamed order) .emptyId)
  else if !isWeight e.weight then .error (.invalidWeight id e.weight)
  else if e.clauses.isEmpty then .error (.emptyPattern id)
  else
    (e.clauses.mapM (ClauseEntry.validate id)).map fun clauses =>
      { id, category, description := describedBy id e.description, weight := e.weight, clauses,
        order }

/-- The references of a rule that hold more than blanks; none may come twice. -/
def references : (seen : List String) → List String → Except (RuleFault α) (List String)
  | _, [] => .ok []
  | seen, s :: rest =>
    let s := Text.trim s
    if s.isEmpty then references seen rest
    else if seen.contains s then .error (.listedTwice s)
    else (references (s :: seen) rest).map (s :: ·)

/-- The rule of an entry at a position among the rules. -/
def RuleEntry.validate (e : RuleEntry α) (category : Category) (order : Nat) :
    Except (CatalogueError α) (Rule α) :=
  let id := Text.trim e.id
  let invalid (fault : RuleFault α) : Except (CatalogueError α) (Rule α) :=
    .error (.invalidRule (if id.isEmpty then unnamed order else id) fault)
  if id.isEmpty then invalid .emptyId
  else
    match references [] e.signatures with
    | .error fault => invalid fault
    | .ok signatures =>
      if signatures.length < 2 then invalid .tooFewSignatures
      else if !isBoost e.boost then invalid (.boostOutOfRange e.boost)
      else
        .ok { id, category, description := describedBy id e.description, signatures,
              boost := e.boost, order }

end TechniqueScan
