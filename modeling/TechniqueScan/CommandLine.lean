import TechniqueScan.Analyzer
import TechniqueScan.CommandLine.Number
import TechniqueScan.CommandLine.Switch

/-!
The command line: what a user can ask for, and how it is said.
-/

namespace TechniqueScan

/-- What facts are read from. -/
inductive InputChoice where
  | binary (path : String)
  | facts (path : String)
  deriving DecidableEq, Repr

/-- A request to run an analyzer on an input. -/
structure AnalysisRequest where
  analyzer : Analyzer
  input : InputChoice
  provider : Option String := none
  architecture : Option String := none
  /-- Whether the outcome is shown as JSON. -/
  json : Bool := false
  /-- Whether the outcome is kept in the workspace. -/
  save : Bool := false
  topN : Option Nat := none
  minConfidence : Option Float := none
  deriving Repr

/-- What a user can ask for. -/
inductive Command where
  | init (name : Option String) (force : Bool)
  | analyze (request : AnalysisRequest)
  | analyzers (json : Bool)
  | signatures (category : Option String) (json : Bool)
  | validateCatalogue (directory : String)
  deriving Repr

/-- A command with the workspace it is for. -/
structure Invocation where
  root : String
  /-- The file of the settings, if it is not that of the workspace. -/
  settings : Option String
  command : Command
  deriving Repr

namespace CommandLine

/--
The switches that may stand before and behind the name of the command. Being verbose changes
nothing of what is answered.
-/
def commonSwitches : List Switch :=
  [ { name := "root", takesValue := true },
    { name := "config", takesValue := true },
    { name := "verbose", letter := some 'v' },
    { name := "help", letter := some 'h' } ]

/-- The names of the commands. -/
inductive CommandName where
  | init | analyze | analyzers | signatures | validateCatalogue
  deriving DecidableEq, Repr

namespace CommandName

def all : List CommandName := [init, analyze, analyzers, signatures, validateCatalogue]

def text : CommandName → String
  | init => "init"
  | analyze => "analyze"
  | analyzers => "analyzers"
  | signatures => "signatures"
  | validateCatalogue => "validate-catalogue"

def ofText? (s : String) : Option CommandName := all.find? fun c => c.text = s

/-- The switches of a command. -/
def switches : CommandName → List Switch
  | init => [{ name := "name", takesValue := true }, { name := "force" }]
  | analyze =>
    [ { name := "binary", takesValue := true },
      { name := "facts", takesValue := true },
      { name := "provider", takesValue := true },
      { name := "arch", takesValue := true },
      { name := "json" },
      { name := "save" },
      { name := "top", takesValue := true, accepts := fun s => (natural? s).isSome },
      { name := "min-confidence", takesValue := true, accepts := fun s => (real? s).isSome } ]
  | analyzers => [{ name := "json" }]
  | signatures => [{ name := "category", takesValue := true }, { name := "json" }]
  | validateCatalogue => [{ name := "dir", takesValue := true }]

/-- The operands of a command: an analysis is given its analyzer. -/
def operands : CommandName → List (String → Bool)
  | analyze => [fun s => (Analyzer.parse? s).isSome]
  | _ => []

end CommandName

/-- What comes before the name of the command. -/
def outer : Level where
  switches := commonSwitches ++ [{ name := "version", letter := some 'V' }]
  opens word := word = "help" || (CommandName.ofText? word).isSome

/-- What comes behind the name of a command. -/
def inner (name : CommandName) : Level where
  switches := commonSwitches ++ name.switches
  operands := name.operands

/-- The one input of an analysis. -/
def inputOf? (g : Given) : Option InputChoice :=
  match g.value? "binary", g.value? "facts" with
  | some path, none => some (.binary path)
  | none, some path => some (.facts path)
  | _, _ => none

/-- The analysis that is asked for. -/
def analysisOf? (g : Given) : Option AnalysisRequest := do
  let analyzer ← g.operands.head?.bind Analyzer.parse?
  let input ← inputOf? g
  some {
    analyzer, input
    provider := g.value? "provider"
    architecture := g.value? "arch"
    json := g.has "json"
    save := g.has "save"
    topN := (g.value? "top").bind natural?
    minConfidence := (g.value? "min-confidence").bind real? }

/-- The command with what is given for it. -/
def commandOf? (g : Given) : CommandName → Option Command
  | .init => some (.init (g.value? "name") (g.has "force"))
  | .analyze => (analysisOf? g).map .analyze
  | .analyzers => some (.analyzers (g.has "json"))
  | .signatures => some (.signatures (g.value? "category") (g.has "json"))
  | .validateCatalogue => (g.value? "dir").map .validateCatalogue

/-- The help on the commands with these names; no command has commands of its own. -/
def helpOn (names : List String) : Stop :=
  match names with
  | [] => .help
  | [name] => if name = "help" || (CommandName.ofText? name).isSome then .help else .misuse
  | _ => .misuse

/-- Reads a command line. What is said behind the name of the command counts first. -/
def parse (words : List String) : Except Stop Invocation := do
  let (before, rest) ← outer.read {} words
  match before.operands.head? with
  | none => .error .misuse
  | some word =>
    match CommandName.ofText? word with
    | none => .error (helpOn rest)
    | some name =>
      let (behind, _) ← (inner name).read {} rest
      match commandOf? behind name with
      | none => .error .misuse
      | some command =>
        .ok {
          root := (behind.value? "root" <|> before.value? "root").getD "."
          settings := behind.value? "config" <|> before.value? "config"
          command }

end CommandLine

end TechniqueScan
