/-!
What facts are wanted from.
-/

namespace TechniqueScan

/-- A request for the facts about a binary. -/
structure FactRequest where
  path : String
  /-- The architecture, if it should not be taken from the binary. -/
  architecture : Option String := none
  /-- How many instructions of each procedure are looked at. -/
  maxInstructions : Option Nat := none
  deriving DecidableEq, Repr

end TechniqueScan
