import TechniqueScan.Files.Error
import TechniqueScan.Path

/-!
What a program may ask of the files around it. Whatever can answer these questions can be worked
on: the disk of a computer, or a tree of files that is nothing but a value.
-/

namespace TechniqueScan

/-- What stands at a place. -/
inductive EntryKind where
  | file | directory
  deriving DecidableEq, Repr

/-- Files and directories, reached by paths. -/
class Files (m : Type → Type) where
  /-- The path of the directory that relative paths start from. -/
  workingDirectory : m String
  /-- The one path without detours that leads to the same place, if there is such a place. -/
  resolve? (path : String) : m (Option String)
  /-- What a path leads to, if it leads anywhere. -/
  kind? (path : String) : m (Option EntryKind)
  /-- The content of a file. -/
  read (path : String) : m (Except SystemError ByteArray)
  /-- The names in a directory. -/
  names (path : String) : m (Except SystemError (List String))
  /-- Makes one directory in a place where there is nothing yet. -/
  makeDirectory (path : String) : m (Except SystemError Unit)
  /-- Gives a file this content, whether or not there is one already. -/
  write (path : String) (content : ByteArray) : m (Except SystemError Unit)

/-- Work that may fail asks the same questions. -/
instance {m : Type → Type} {ε : Type} [Monad m] [Files m] : Files (ExceptT ε m) where
  workingDirectory := ExceptT.lift Files.workingDirectory
  resolve? path := ExceptT.lift (Files.resolve? path)
  kind? path := ExceptT.lift (Files.kind? path)
  read path := ExceptT.lift (Files.read path)
  names path := ExceptT.lift (Files.names path)
  makeDirectory path := ExceptT.lift (Files.makeDirectory path)
  write path content := ExceptT.lift (Files.write path content)

namespace Files

variable {m : Type → Type} [Monad m] [Files m]

/-- Whether a path leads to a file. -/
def isFile (path : String) : m Bool := do
  return (← kind? path) == some .file

/-- Whether a path leads to a directory. -/
def isDirectory (path : String) : m Bool := do
  return (← kind? path) == some .directory

/-- Whether a path leads anywhere. -/
def exists? (path : String) : m Bool := do
  return (← kind? path).isSome

/-- The text of a file. -/
def readText (path : String) : m (Except SystemError String) := do
  match ← read path with
  | .error e => return .error e
  | .ok content =>
    match String.fromUTF8? content with
    | some text => return .ok text
    | none => return .error .invalidText

/-- Writes a text into a file. -/
def writeText (path text : String) : m (Except SystemError Unit) := write path text.toUTF8

/-- Makes a directory; it does no harm that there is one already. -/
def provideDirectory (path : String) : m (Except SystemError Unit) := do
  match ← makeDirectory path with
  | .ok () => return .ok ()
  | .error e => if ← isDirectory path then return .ok () else return .error e

/-- Makes a directory, and before it the missing ones among those above it, nearest first. -/
def makeUnder (path : String) : (above : List String) → m (Except SystemError Unit)
  | [] => provideDirectory path
  | parent :: above => do
    match ← makeDirectory path with
    | .error .notFound =>
      match ← makeUnder parent above with
      | .error e => return .error e
      | .ok () => provideDirectory path
    | .ok () => return .ok ()
    | .error e => if ← isDirectory path then return .ok () else return .error e

/-- Makes a directory together with everything above it that is missing. -/
def makeDirectories (path : String) : m (Except SystemError Unit) :=
  makeUnder path (Path.ancestors path)

end Files

end TechniqueScan
