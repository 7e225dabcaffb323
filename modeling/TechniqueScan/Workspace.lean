import TechniqueScan.Catalogue.BuiltIn
import TechniqueScan.Catalogue.Directory
import TechniqueScan.Program.Error
import TechniqueScan.Text.Lines
import TechniqueScan.Workspace.Layout

/-!
Workspaces: a root directory with settings, the catalogue they name, and the outputs of runs.
-/

namespace TechniqueScan

/-- The registry of the built-in catalogue over numbers of double precision. -/
def builtInRegistry : Except (CatalogueError Float) (Registry Float) := BuiltIn.registry

/-- A workspace with the settings that hold in it. -/
structure Workspace where
  layout : Workspace.Layout
  settings : Settings Float

namespace Workspace

variable {m : Type → Type} [Monad m] [Files m]

/-- The full path of a root. It need not be there yet. -/
def findRoot (root : String) : m String := do
  if Path.isHere root then Files.workingDirectory
  else
    match ← Files.resolve? root with
    | some path => return path
    | none => return Path.join (← Files.workingDirectory) root

/-- An input by its own path if there is one, or else below a root. -/
def findInput (root path : String) : m String := do
  if Path.isAbsolute path then return path
  else if ← Files.exists? path then return path
  else return Path.join root path

/-- The workspace at a root, with its own settings or with those of another file. -/
def open? (root : String) (settingsPath : Option String) :
    ExceptT CommandError m Workspace := do
  let layout : Layout := ⟨← findRoot root⟩
  match settingsPath with
  | some path => return ⟨layout, ← (Settings.load path).adapt (.settings path)⟩
  | none =>
    let path := layout.configPath
    return ⟨layout, ← (Settings.loadOrDefault path).adapt (.workspaceSettings path)⟩

/-- The catalogue of a workspace. -/
def registry (w : Workspace) : ExceptT CommandError m (Registry Float) :=
  match w.settings.catalogueDirectory? w.layout.root with
  | some directory => (Registry.ofDirectory directory).adapt (.catalogue directory)
  | none => ExceptT.mk (pure (builtInRegistry.mapError .builtInCatalogue))

/-! ## Making one -/

/-- Makes directories, all of which may be there already. -/
def makeAll (paths : List String) : ExceptT CommandError m Unit :=
  paths.forM fun path => do
    match ← Files.makeDirectories path with
    | .ok () => return
    | .error e => throw (.workspaceDirectory path e)

/-- What is told of a directory. -/
def directoryStatus (label path : String) : m String := do
  let status := if ← Files.isDirectory path then "OK" else "MISSING"
  return "- " ++ label ++ ": " ++ status ++ " (" ++ path ++ ")"

/-- Makes a workspace. Settings that it has already are kept unless they are to be replaced. -/
def init (root : String) (name : Option String) (force : Bool) :
    ExceptT CommandError m String := do
  let layout : Layout := ⟨← findRoot root⟩
  let name := name.getD (inferName layout.root)
  makeAll layout.directories
  let kept := (← Files.exists? layout.configPath) && !force
  if !kept then
    let settings : Settings Float := { (.default : Settings Float) with name := some name }
    (settings.save layout.configPath).adapt (.newSettings layout.configPath)
  let lines := [
    "Initialized sigscope workspace:",
    "  Name: " ++ name,
    "  Root: " ++ layout.root,
    "  Config: " ++ layout.configPath ++ (if kept then " (existing, kept)" else ""),
    "Directories:",
    ← directoryStatus "Meta dir (.sigscope)" layout.metaDir,
    ← directoryStatus "Reports dir" layout.reportsDir,
    ← directoryStatus "Outputs dir" layout.outputsDir,
    ← directoryStatus "Per-binary outputs" layout.binariesDir ]
  return Text.unlines lines

end Workspace

end TechniqueScan
