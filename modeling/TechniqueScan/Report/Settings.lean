import TechniqueScan.Arithmetic
import TechniqueScan.Category

/-!
What a report lists, and how much each category counts in it.
-/

namespace TechniqueScan

open Arithmetic

/-- The settings of a report. -/
structure ReportSettings (α : Type) where
  /-- How many findings are listed of each category; all of them unless given. -/
  topN : Option Nat := none
  /-- What categories weigh, in report order; a category that is not named weighs 1. -/
  categoryWeights : List (Category × α) := []
  /-- Findings of a lower confidence are dropped. -/
  minConfidence : α
  deriving BEq, Repr

namespace ReportSettings

variable {α : Type} [Arithmetic α]

/-- Lists everything, all categories weighing the same. -/
def default : ReportSettings α := { minConfidence := ofNat 0 }

/-- What a category weighs; no weight is less than 0. -/
def weightFor (s : ReportSettings α) (c : Category) : α :=
  max ((s.categoryWeights.lookup c).getD (ofNat 1)) (ofNat 0)

end ReportSettings

end TechniqueScan
