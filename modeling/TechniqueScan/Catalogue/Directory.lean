import TechniqueScan.Catalogue.Registry
import TechniqueScan.Files.Basic

/-!
Catalogues kept as the YAML files of a directory. They are taken in the order of their names.
-/

namespace TechniqueScan.Registry

variable {m : Type → Type} [Monad m] [Files m]

/-- The YAML files directly in a directory, by name. -/
def yamlFiles (directory : String) (names : List String) : m (List String) := do
  let paths := (names.mergeSort fun a b => (compare a b).isLE).map (Path.join directory)
  (paths.filter Path.isYaml).filterM Files.isFile

/-- The texts of some files, each with the path of its file. -/
def readFiles (paths : List String) :
    ExceptT (CatalogueError Float) m (List (String × String)) :=
  paths.mapM fun path => do
    match ← Files.readText path with
    | .ok text => return (path, text)
    | .error e => throw (.unreadable path e)

/-- The registry of the catalogue in a directory. -/
def ofDirectory (directory : String) : ExceptT (CatalogueError Float) m (Registry Float) := do
  match ← Files.names directory with
  | .error e => throw (.unreadable directory e)
  | .ok names =>
    let paths ← yamlFiles directory names
    if paths.isEmpty then throw (.noFiles directory)
    ExceptT.mk (pure (ofTexts (← readFiles paths)))

end TechniqueScan.Registry
