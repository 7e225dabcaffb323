import TechniqueScan.Category

/-!
The analyzers a user can run. Each activates some categories and titles its report; the scan
itself is the same for all.
-/

namespace TechniqueScan

/-- An analyzer of one category, or of every category. -/
inductive Analyzer where
  | only (category : Category)
  | all
  deriving DecidableEq, Repr

namespace Analyzer

/-- Every analyzer, in the order in which they are listed. -/
def every : List Analyzer := Category.all.map only ++ [all]

/-- The name of an analyzer: that of its category, except that anti-debugging is called by its aim. -/
def name : Analyzer → String
  | only .antiDebug => "anti-analysis"
  | only c => c.id
  | all => "all"

/-- The active categories, in report order. -/
def categories : Analyzer → List Category
  | only c => [c]
  | all => Category.all

/-- The title of its reports. -/
def title : Analyzer → String
  | only .antiDebug => "Anti-Analysis Detection Report"
  | only .c2 => "C2 Communication Analysis Report"
  | only .fileOps => "File Operation Vulnerability Report"
  | only .keychain => "Keychain & Credential Analysis Report"
  | only .machIpc => "Mach IPC Analysis Report"
  | only .network => "Network Activity Report"
  | only .persistence => "Persistence Mechanism Report"
  | only .privilegeEscalation => "Privilege Escalation Analysis Report"
  | only .processInjection => "Process Injection Analysis Report"
  | only .rootkit => "Rootkit Behavior Report"
  | only .syscall => "Raw Syscall Analysis Report"
  | only .xpc => "XPC Service Analysis Report"
  | all => "Full Technique Scan Report"

/-- The analyzer with exactly this name. -/
def ofName? (s : String) : Option Analyzer := every.find? fun a => a.name = s

/--
The analyzer a user means: blanks around the name and the case of ASCII letters do not matter,
and the identifier of a category stands for its analyzer.
-/
def parse? (s : String) : Option Analyzer :=
  let wanted := (Text.trim s).toLower
  ofName? wanted <|> (Category.ofId? wanted).map only

theorem ofName?_name (a : Analyzer) : ofName? a.name = some a := by
  cases a with
  | only c => cases c <;> decide
  | all => decide

end Analyzer

/-- What is said of a text that names no analyzer. -/
def unknownAnalyzer (s : String) : String :=
  "unknown analyzer '" ++ s ++ "' (expected one of: "
    ++ ", ".intercalate (Analyzer.every.map Analyzer.name) ++ ")"

end TechniqueScan
