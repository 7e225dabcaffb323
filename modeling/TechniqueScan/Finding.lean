import TechniqueScan.Category
import TechniqueScan.Fact

/-!
Findings: scored conclusions about one procedure, or about the binary as a whole, in one category.
-/

namespace TechniqueScan

/-- A scored conclusion. -/
structure Finding (α : Type) where
  category : Category
  scope : Scope
  /-- The lowest address among the facts behind it. -/
  address : UInt64
  /-- The rule that tied the signatures together, if there are several. -/
  rule : Option String
  title : String
  /-- The signatures that hit, in catalogue order. -/
  signatures : List String
  confidence : α
  /-- The descriptions of the facts behind it, in ascending order, each once. -/
  evidence : List String
  deriving DecidableEq, Repr

/-- Whether several signatures contribute. -/
def Finding.isComposite {α : Type} (f : Finding α) : Bool := f.signatures.length > 1

/-- A signature that two rules wanted in the same place, and which of them kept it. -/
structure RuleConflict where
  category : Category
  scope : Scope
  signature : String
  kept : String
  dropped : String
  deriving DecidableEq, Repr

def RuleConflict.message (c : RuleConflict) : String :=
  "rule '" ++ c.dropped ++ "' dropped in " ++ c.category.id ++ " [" ++ c.scope.toText
    ++ "]: signature '" ++ c.signature ++ "' already claimed by '" ++ c.kept ++ "'"

end TechniqueScan
