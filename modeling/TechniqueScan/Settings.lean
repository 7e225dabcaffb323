import TechniqueScan.Path
import TechniqueScan.Run

/-!
The settings of a workspace.
-/

namespace TechniqueScan

/-- What a workspace settles for all runs in it. -/
structure Settings (α : Type) where
  /-- The name of the workspace. -/
  name : Option String := none
  /-- The version of the format in which settings are kept. -/
  version : String := "0.1.0"
  /-- The directory of the catalogue that replaces the built-in one, below the root of the workspace. -/
  catalogue : Option String := none
  report : ReportSettings α
  parallel : Bool := true
  /-- The provider for binaries, unless another one is asked for. -/
  provider : Option String := none
  /-- How many instructions of each procedure are looked at. -/
  maxInstructions : Option Nat := none
  deriving BEq, Repr

namespace Settings

variable {α : Type}

/-- What holds where nothing is settled. -/
def default [Arithmetic α] : Settings α := { report := .default }

/-- The directory of the catalogue, if it is not the built-in one. -/
def catalogueDirectory? (s : Settings α) (root : String) : Option String :=
  s.catalogue.map (Path.join root)

/-- The options of a run. -/
def runOptions (s : Settings α) : RunOptions α := ⟨s.report, s.parallel⟩

end Settings

end TechniqueScan
