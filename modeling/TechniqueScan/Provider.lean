import TechniqueScan.Files.Basic
import TechniqueScan.Provider.Disassembly
import TechniqueScan.Provider.SnapshotFile

/-!
The providers that facts can be had from. A provider yields all facts about a file or none.
-/

namespace TechniqueScan

/-- A source of facts. -/
inductive Provider where
  /-- The machine code of a binary. -/
  | disassembly
  /-- A snapshot that another tool has taken. -/
  | snapshot
  deriving DecidableEq, Repr

namespace Provider

/-- Every provider, in the order of their names. -/
def all : List Provider := [disassembly, snapshot]

/-- The name under which a provider is asked for. -/
def name : Provider → String
  | disassembly => "capstone"
  | snapshot => "snapshot"

/-- The provider with a name. -/
def ofName? (s : String) : Option Provider := all.find? fun p => p.name = s

theorem ofName?_name (p : Provider) : ofName? p.name = some p := by cases p <;> decide

/-- The facts in the content of a file. -/
def factsIn (p : Provider) (q : FactRequest) (content : ByteArray) : Except FactError FactModel :=
  match p with
  | disassembly => Disassembly.factsOfFile q content
  | snapshot => Snapshot.factsOfFile q.path content

variable {m : Type → Type} [Monad m] [Files m]

/-- The content of the file of a request. -/
def readInput (path : String) : m (Except FactError ByteArray) := do
  if ← Files.isFile path then
    match ← Files.read path with
    | .ok content => return .ok content
    | .error e => return .error (.unreadable path e)
  else return .error (.missingBinary path)

/-- The facts that a request yields. -/
def facts (p : Provider) (q : FactRequest) : m (Except FactError FactModel) := do
  return (← readInput q.path).bind (p.factsIn q)

end Provider

end TechniqueScan
