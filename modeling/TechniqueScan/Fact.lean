import TechniqueScan.Text.Blank
import TechniqueScan.Text.Escape
import TechniqueScan.Text.LowerCase

/-!
Atomic observations about a binary: what was seen, and where. Facts have a total order (place,
then kind, then context), so that equal sets of facts are listed in one way only.
-/

namespace TechniqueScan

/-- Where facts belong together: a procedure, or the binary as a whole. -/
inductive Scope where
  | whole
  | procedure (name : String)
  deriving DecidableEq, Repr, Inhabited

namespace Scope

/-- The text that stands for the binary as a whole. -/
def wholeText : String := "<global>"

def toText : Scope → String
  | whole => wholeText
  | procedure name => name

/-- The scope a text names; an empty text names the whole binary. -/
def ofText (s : String) : Scope :=
  if s.isEmpty || s = wholeText then whole else procedure s

/-- The scope an optional text names. -/
def ofText? : Option String → Scope
  | some s => ofText s
  | none => whole

def procedureName? : Scope → Option String
  | whole => none
  | procedure name => some name

def isProcedure (s : Scope) : Bool := s.procedureName?.isSome

def compare : Scope → Scope → Ordering
  | whole, whole => .eq
  | whole, procedure _ => .lt
  | procedure _, whole => .gt
  | procedure a, procedure b => Ord.compare a b

instance : Ord Scope := ⟨compare⟩

end Scope

/-- Where a fact was seen. -/
structure Location where
  scope : Scope
  address : UInt64
  deriving DecidableEq, Repr, Inhabited

instance : Ord Location := ⟨compareLex (compareOn (·.scope)) (compareOn (·.address))⟩

/-- How a symbol is bound. -/
inductive SymbolKind where
  | imported | exported | local
  deriving DecidableEq, Repr, Inhabited

namespace SymbolKind

def all : List SymbolKind := [imported, exported, .local]

def name : SymbolKind → String
  | imported => "import"
  | exported => "export"
  | .local => "local"

def ofName? (s : String) : Option SymbolKind := all.find? fun k => k.name = s

instance : Ord SymbolKind := ⟨compareOn (·.ctorIdx)⟩

end SymbolKind

/-- What a cross-reference does with its target. -/
inductive ReferenceKind where
  | call | jump | data
  deriving DecidableEq, Repr, Inhabited

namespace ReferenceKind

def all : List ReferenceKind := [call, jump, data]

def name : ReferenceKind → String
  | call => "call"
  | jump => "jump"
  | data => "data"

def ofName? (s : String) : Option ReferenceKind := all.find? fun k => k.name = s

instance : Ord ReferenceKind := ⟨compareOn (·.ctorIdx)⟩

end ReferenceKind

/-- An instruction as its disassembly reads. -/
structure Instruction where
  mnemonic : String
  operands : String
  deriving DecidableEq, Repr, Inhabited

instance : Ord Instruction := ⟨compareLex (compareOn (·.mnemonic)) (compareOn (·.operands))⟩

/-- A reference to another address, with the name of what is there if it is known. -/
structure Reference where
  target : UInt64
  targetName : Option String
  kind : ReferenceKind
  deriving DecidableEq, Repr

instance : Ord Reference :=
  ⟨compareLex (compareOn (·.target)) (compareLex (compareOn (·.targetName)) (compareOn (·.kind)))⟩

/-- What was seen. -/
inductive Observation where
  | symbol (name : String) (kind : SymbolKind)
  | string (value : String)
  | number (value : UInt64) (operandIndex : Option Nat)
  | instruction (i : Instruction)
  | reference (r : Reference)
  deriving DecidableEq, Repr

namespace Observation

def compare : Observation → Observation → Ordering
  | symbol n k, symbol n' k' => (Ord.compare n n').then (Ord.compare k k')
  | string v, string v' => Ord.compare v v'
  | number v i, number v' i' => (Ord.compare v v').then (Ord.compare i i')
  | instruction i, instruction i' => Ord.compare i i'
  | reference r, reference r' => Ord.compare r r'
  | a, b => Ord.compare a.ctorIdx b.ctorIdx

instance : Ord Observation := ⟨compare⟩

end Observation

/-- What is known about the call at which something was seen. -/
structure CallContext where
  convention : Option String
  argumentCount : Option Nat
  deriving DecidableEq, Repr

instance : Ord CallContext :=
  ⟨compareLex (compareOn (·.convention)) (compareOn (·.argumentCount))⟩

/-- The context, unless there is nothing in it. -/
def CallContext.nonempty? (c : CallContext) : Option CallContext :=
  if c.convention.isNone && c.argumentCount.isNone then none else some c

/-- An atomic observation extracted from a binary. -/
structure Fact where
  location : Location
  seen : Observation
  context : Option CallContext := none
  deriving DecidableEq, Repr

instance : Ord Fact :=
  ⟨compareLex (compareOn (·.location)) (compareLex (compareOn (·.seen)) (compareOn (·.context)))⟩

namespace Fact

def scope (f : Fact) : Scope := f.location.scope

/-- An instruction without outer blanks and in lower case. -/
def normalInstruction (i : Instruction) : Instruction :=
  ⟨Text.toLower (Text.trim i.mnemonic), Text.toLower (Text.trim i.operands)⟩

/-- The fact as it is kept: instructions are compared without regard to case. -/
def normal (f : Fact) : Fact :=
  match f.seen with
  | .instruction i => { f with seen := .instruction (normalInstruction i) }
  | _ => f

def isInstruction (f : Fact) : Bool :=
  match f.seen with
  | .instruction _ => true
  | _ => false

/-! ## One line of evidence -/

/-- How many characters of a string are shown. -/
def shownCharacters : Nat := 96

/-- A string as it is shown: escaped, and cut off if it is long. -/
def shownString (s : String) : String :=
  let escaped := Text.escapeChars s.toList
  if escaped.length ≤ shownCharacters then String.ofList escaped
  else String.ofList (escaped.take shownCharacters ++ ['.', '.', '.'])

def hexNumber (n : UInt64) : String := "0x" ++ Text.hexText 1 n.toNat

/-- What was seen, in words. -/
def describeObservation : Observation → String
  | .symbol name kind => kind.name ++ " symbol '" ++ name ++ "'"
  | .string value => "string \"" ++ shownString value ++ "\""
  | .number value _ => "constant " ++ hexNumber value ++ " (" ++ toString value.toNat ++ ")"
  | .instruction i =>
    if i.operands.isEmpty then "insn " ++ i.mnemonic else "insn " ++ i.mnemonic ++ " " ++ i.operands
  | .reference r =>
    r.kind.name ++ " -> " ++ (match r.targetName with
      | some name => name
      | none => hexNumber r.target)

/-- What is known about the call, in words. -/
def describeContext (c : CallContext) : String :=
  (match c.convention with
    | some convention => " cc=" ++ convention
    | none => "")
    ++ (match c.argumentCount with
      | some count => " argc=" ++ toString count
      | none => "")

/-- The line of evidence a fact is shown as. It does not depend on the other facts. -/
def describe (f : Fact) : String :=
  "0x" ++ Text.hexText 8 f.location.address.toNat ++ " [" ++ f.scope.toText ++ "] "
    ++ describeObservation f.seen
    ++ (match f.context with
      | some c => describeContext c
      | none => "")

end Fact

end TechniqueScan
