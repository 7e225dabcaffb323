import TechniqueScan.Arithmetic
import TechniqueScan.Catalogue.File

/-!
The clauses of the built-in catalogue, each by its kind.
-/

namespace TechniqueScan.BuiltIn

/-- A symbol with one of these names. -/
def symbols (names : List String) : ClauseEntry := { symbols := some names }

/-- A string that holds one of these texts. -/
def strings (texts : List String) : ClauseEntry := { strings := some texts }

/-- A text that a regular expression finds something in. -/
def regex (target : RegexTarget) (source : String) : ClauseEntry :=
  { regex := some source, target := if target = .string then none else some target }

/-- One of these numbers. -/
def numbers (values : List UInt64) : ClauseEntry := { numbers := some ⟨values, none, none⟩ }

/-- A number between two bounds, both of which belong to the range. -/
def numbersBetween (least greatest : UInt64) : ClauseEntry :=
  { numbers := some ⟨[], some least, some greatest⟩ }

/-- Consecutive instructions. -/
def window (steps : List StepEntry) : ClauseEntry := { opcodes := some steps }

end TechniqueScan.BuiltIn
