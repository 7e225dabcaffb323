import TechniqueScan.Category
import TechniqueScan.FactModel
import TechniqueScan.Regex.Reader

/-!
Signatures and rules. A signature describes one technique by patterns that all have to hit in the
same procedure; a rule ties several signatures of a category into one finding.
-/

namespace TechniqueScan

/-- Which texts a regular expression is applied to. -/
inductive RegexTarget where
  | symbol | string
  deriving DecidableEq, Repr

def RegexTarget.all : List RegexTarget := [symbol, string]

def RegexTarget.name : RegexTarget → String
  | symbol => "symbol"
  | string => "string"

def RegexTarget.ofName? (s : String) : Option RegexTarget := all.find? fun t => t.name = s

/-- Whether a list occurs in another one without gaps. -/
def occursIn {α : Type} [DecidableEq α] (needle : List α) : List α → Bool
  | [] => needle.isEmpty
  | c :: cs => needle.isPrefixOf (c :: cs) || occursIn needle cs

/-- Whether a text occurs in another one. -/
def textOccursIn (needle text : String) : Bool := occursIn needle.toList text.toList

/-- One instruction of a window: its mnemonic, and a text that occurs in its operands. -/
structure OpcodeStep where
  mnemonic : String
  operands : Option String
  deriving DecidableEq, Repr

/-- Whether an instruction is of the kind a step asks for. -/
def OpcodeStep.accepts (s : OpcodeStep) (i : Instruction) : Bool :=
  i.mnemonic = s.mnemonic && s.operands.all fun needle => textOccursIn needle i.operands

/-- Numbers listed one by one, in ascending order, and numbers between two bounds. -/
structure NumberPattern where
  values : List UInt64
  range : Option (UInt64 × UInt64)
  deriving DecidableEq, Repr

def NumberPattern.contains (p : NumberPattern) (n : UInt64) : Bool :=
  p.values.contains n || p.range.any fun (low, high) => low ≤ n && n ≤ high

/-- A pattern on facts. -/
inductive Pattern where
  /-- A symbol, or the target of a reference, with one of these names. -/
  | names (names : List String)
  /-- A string in which one of these texts occurs. -/
  | needles (texts : List String)
  | regex (target : RegexTarget) (r : Regex)
  | numbers (p : NumberPattern)
  /-- Consecutive instructions of one procedure. -/
  | window (steps : List OpcodeStep)

namespace Pattern

/-- The field of a catalogue in which a pattern of this kind is written. -/
def kind : Pattern → String
  | names _ => "symbols"
  | needles _ => "strings"
  | regex .. => "regex"
  | numbers _ => "numbers"
  | window _ => "opcodes"

def stepSummary (s : OpcodeStep) : String :=
  match s.operands with
  | some needle => s.mnemonic ++ " *" ++ needle ++ "*"
  | none => s.mnemonic

/-- The pattern in one line. -/
def summary : Pattern → String
  | names ns => "symbols [" ++ ", ".intercalate ns ++ "]"
  | needles ts => "strings " ++ Text.quotedList ts
  | regex target r => "regex on " ++ target.name ++ ": /" ++ r.source ++ "/"
  | numbers p =>
    let values := p.values.map Fact.hexNumber
    let range := p.range.toList.map fun (low, high) =>
      Fact.hexNumber low ++ "..=" ++ Fact.hexNumber high
    "numbers [" ++ ", ".intercalate (values ++ range) ++ "]"
  | window steps => "opcodes [" ++ "; ".intercalate (steps.map stepSummary) ++ "]"

end Pattern

/-- A technique and how it shows. -/
structure Signature (α : Type) where
  id : String
  category : Category
  description : String
  /-- How much the signature says when it hits, more than 0 and at most 1. -/
  weight : α
  clauses : List Pattern
  /-- The position in the catalogue. -/
  order : Nat

/-- Whether several clauses have to hit in one procedure. -/
def Signature.isMultiClause {α : Type} (s : Signature α) : Bool := s.clauses.length > 1

/-- Signatures that make one finding where they occur together. -/
structure Rule (α : Type) where
  id : String
  category : Category
  description : String
  signatures : List String
  /-- What their occurring together adds, at least 0 and less than 1. -/
  boost : α
  /-- The position among the rules of the catalogue. -/
  order : Nat

end TechniqueScan
