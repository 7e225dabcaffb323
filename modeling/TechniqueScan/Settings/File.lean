import TechniqueScan.Document.Json
import TechniqueScan.Document.JsonText
import TechniqueScan.Document.Yaml.Node
import TechniqueScan.Document.YamlText
import TechniqueScan.Files.Basic
import TechniqueScan.Settings.Codec

/-!
Settings kept in files. The extension of a file says whether it is YAML; everything else is JSON.
-/

namespace TechniqueScan

/-- Why settings cannot be read or kept. -/
inductive SettingsError where
  | inaccessible (path : String) (cause : SystemError)
  /-- The file is no document, or not one of settings. -/
  | notSettings (path : String)
  deriving DecidableEq, Repr

def SettingsError.message : SettingsError → String
  | inaccessible path cause => "Failed to access config " ++ path ++ ": " ++ cause.message
  | notSettings path => "Failed to parse config " ++ path

namespace Settings

open Document

/-- Reads the text of a file. An empty YAML document settles nothing. -/
def ofText? (path text : String) : Option (Settings Float) :=
  if Path.isYaml path then
    match Yaml.read? text with
    | some .empty => some .default
    | some (.document v) => (decode v).toOption
    | none => none
  else (Json.read? text).bind fun v => (decode v).toOption

/-- The text of a file. -/
def toText (path : String) (s : Settings Float) : String :=
  if Path.isYaml path then YamlText.document s.encode else JsonText.pretty 0 s.encode

variable {m : Type → Type} [Monad m] [Files m]

/-- The settings in a file. -/
def load (path : String) : ExceptT SettingsError m (Settings Float) := do
  match ← Files.readText path with
  | .error e => throw (.inaccessible path e)
  | .ok text =>
    match ofText? path text with
    | some s => return s
    | none => throw (.notSettings path)

/-- The settings in a file, if there is one. -/
def loadOrDefault (path : String) : ExceptT SettingsError m (Settings Float) := do
  if ← Files.isFile path then load path else return .default

/-- Keeps settings in a file, making the directory for it if it is missing. -/
def save (s : Settings Float) (path : String) : ExceptT SettingsError m Unit := do
  let parent := Path.parent path
  match ← Files.makeDirectories parent with
  | .error e => throw (.inaccessible parent e)
  | .ok () =>
    match ← Files.writeText path (s.toText path) with
    | .error e => throw (.inaccessible path e)
    | .ok () => return

end Settings

end TechniqueScan
