import TechniqueScan.Catalogue.Error
import TechniqueScan.Provider
import TechniqueScan.Run
import TechniqueScan.Settings.File

/-!
Why a command fails, and how that is told: first what could not be done, then the causes of it,
each followed by its own cause.
-/

namespace TechniqueScan

/-- An error together with what caused it, the nearest cause first. -/
class Caused (ε : Type) where
  chain : ε → List String

instance : Caused SystemError := ⟨fun e => [e.message]⟩

instance : Caused SettingsError where
  chain e :=
    e.message :: match e with
      | .inaccessible _ cause => Caused.chain cause
      | .notSettings _ => []

instance : Caused (CatalogueError Float) where
  chain e :=
    e.message :: match e with
      | .unreadable _ cause => Caused.chain cause
      | _ => []

instance : Caused FactError where
  chain e :=
    e.message :: match e with
      | .unreadable _ cause => Caused.chain cause
      | _ => []

instance : Caused RunError where
  chain e :=
    e.message :: match e with
      | .factAccess _ cause => Caused.chain cause
      | .cancelled _ => []

/-- Why a command fails. -/
inductive CommandError where
  /-- The file of settings that was asked for. -/
  | settings (path : String) (cause : SettingsError)
  /-- The settings that the workspace has. -/
  | workspaceSettings (path : String) (cause : SettingsError)
  | builtInCatalogue (cause : CatalogueError Float)
  | catalogue (directory : String) (cause : CatalogueError Float)
  | invalidCatalogue (directory : String) (cause : CatalogueError Float)
  | unknownCategory (name : String)
  | missingInput (path : String)
  | unknownProvider (name : String)
  | analysis (path : String) (cause : RunError)
  | workspaceDirectory (path : String) (cause : SystemError)
  | newSettings (path : String) (cause : SettingsError)
  | outputDirectory (path : String) (cause : SystemError)
  | report (path : String) (cause : SystemError)
  | digest (path : String) (cause : SystemError)
  | metadata (path : String) (cause : SystemError)

namespace CommandError

/-- What could not be done. -/
def message : CommandError → String
  | settings path _ => "Failed to load config " ++ path
  | workspaceSettings path _ => "Failed to load workspace config " ++ path
  | builtInCatalogue _ => "Failed to load the built-in signature catalogue"
  | catalogue directory _ => "Failed to load signature catalogue from " ++ directory
  | invalidCatalogue directory _ => "Catalogue " ++ directory ++ " is invalid"
  | unknownCategory name => TechniqueScan.unknownCategory name
  | missingInput path => "Input file does not exist: " ++ path
  | unknownProvider name =>
    "Unknown fact provider '" ++ name ++ "'. Available: "
      ++ ", ".intercalate (Provider.all.map Provider.name)
  | analysis path _ => "Analysis of " ++ path ++ " failed"
  | workspaceDirectory path _ => "Failed to create directory " ++ path
  | newSettings path _ => "Failed to write config: " ++ path
  | outputDirectory path _ => "Failed to create output dir " ++ path
  | report path _ => "Failed to create " ++ path
  | digest path _ => "Failed to open input for hashing: " ++ path
  | metadata path _ => "Failed to write run metadata at " ++ path

/-- Why it could not be done. -/
def causes : CommandError → List String
  | settings _ cause | workspaceSettings _ cause | newSettings _ cause => Caused.chain cause
  | builtInCatalogue cause | catalogue _ cause | invalidCatalogue _ cause => Caused.chain cause
  | analysis _ cause => Caused.chain cause
  | workspaceDirectory _ cause | outputDirectory _ cause | report _ cause | digest _ cause
  | metadata _ cause => Caused.chain cause
  | unknownCategory _ | missingInput _ | unknownProvider _ => []

end CommandError

/-- A text behind a lead; its further lines begin with blanks of a certain width. -/
def hanging (lead : String) (width : Nat) (s : String) : String :=
  lead ++ ("\n" ++ String.ofList (List.replicate width ' ')).intercalate (s.splitOn "\n")

/-- Causes below their heading. Several of them are numbered from zero. -/
def causeText : List String → String
  | [] => ""
  | [cause] => "\n\nCaused by:\n" ++ hanging "    " 4 cause
  | causes =>
    "\n\nCaused by:" ++ String.join (causes.zipIdx.map fun (cause, i) =>
      "\n" ++ hanging ("    " ++ toString i ++ ": ") 7 cause)

/-- What is told of an error. -/
def CommandError.text (e : CommandError) : String :=
  "Error: " ++ e.message ++ causeText e.causes ++ "\n"

end TechniqueScan
