import TechniqueScan.Path

/-!
Where a workspace keeps its settings and its outputs. Nothing here touches a file.
-/

namespace TechniqueScan.Workspace

/-- The directories and files of a workspace, by its root. -/
structure Layout where
  root : String
  deriving DecidableEq, Repr

namespace Layout

def metaDir (l : Layout) : String := Path.join l.root ".sigscope"

def configPath (l : Layout) : String := Path.join l.metaDir "config.json"

def reportsDir (l : Layout) : String := Path.join l.root "reports"

def outputsDir (l : Layout) : String := Path.join l.root "outputs"

def binariesDir (l : Layout) : String := Path.join l.outputsDir "binaries"

/-- Where everything about one binary is kept. -/
def binaryDir (l : Layout) (binaryName : String) : String := Path.join l.binariesDir binaryName

/-- Where the runs of one analyzer on one binary are kept. -/
def analyzerDir (l : Layout) (binaryName analyzer : String) : String :=
  Path.join (l.binaryDir binaryName) analyzer

/-- The directories a new workspace is given. -/
def directories (l : Layout) : List String :=
  [l.metaDir, l.reportsDir, l.outputsDir, l.binariesDir]

end Layout

/-- The name a workspace has when none was given: that of its directory. -/
def inferName (root : String) : String := (Path.fileName? root).getD "unnamed-workspace"

end TechniqueScan.Workspace
