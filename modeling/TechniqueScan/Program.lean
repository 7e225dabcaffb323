import TechniqueScan.Program.Analysis
import TechniqueScan.Program.Listing

/-!
The program: what it answers to a command line. It works on any files, so an answer can be looked
at without a disk.
-/

namespace TechniqueScan

/-- What a command shows, and why it failed if it did. -/
structure CommandOutcome where
  output : String := ""
  failure : Option CommandError := none

namespace CommandOutcome

/-- The outcome of a command that shows everything or nothing. -/
def ofExcept : Except CommandError String → CommandOutcome
  | .ok output => { output }
  | .error e => { failure := some e }

end CommandOutcome

namespace Command

variable {m : Type → Type} [Monad m] [Files m]

/-- An analysis. Its outcome has been shown when it turns out that it cannot be kept. -/
def analysis [Clock m] (root : String) (settings : Option String) (q : AnalysisRequest) :
    m CommandOutcome := do
  let finished : ExceptT CommandError m (Workspace × Analysis.Finished) := do
    let w ← Workspace.open? root settings
    return (w, ← Analysis.perform w q)
  match ← finished.run with
  | .error e => return { failure := some e }
  | .ok (w, f) =>
    let output := if q.json then Analysis.json f.outcome else Console.render f.outcome
    if !q.save then return { output }
    match ← (Analysis.keep w f).run with
    | .error e => return { output, failure := some e }
    | .ok directory =>
      return { output := if q.json then output
        else output ++ "\nSaved run: " ++ directory ++ "\n" }

/-- The catalogue of a workspace, or what it has of one category. -/
def signatureList (root : String) (settings : Option String) (category : Option String)
    (asJson : Bool) : ExceptT CommandError m String := do
  let registry ← (← Workspace.open? root settings).registry
  match category with
  | none => return Listing.catalogue registry none asJson
  | some name =>
    match Category.parse? name with
    | some c => return Listing.catalogue registry (some c) asJson
    | none => throw (.unknownCategory name)

/-- Checks the catalogue in a directory. -/
def catalogueCheck (root directory : String) : ExceptT CommandError m String := do
  let directory ← Workspace.findInput (← Workspace.findRoot root) directory
  return Listing.summary directory
    (← (Registry.ofDirectory directory).adapt (.invalidCatalogue directory))

end Command

variable {m : Type → Type} [Monad m] [Files m] [Clock m]

/-- Does what a user asks for. -/
def Invocation.run (i : Invocation) : m CommandOutcome :=
  match i.command with
  | .init name force => return .ofExcept (← (Workspace.init i.root name force).run)
  | .analyze q => Command.analysis i.root i.settings q
  | .analyzers asJson => return { output := Listing.analyzers asJson }
  | .signatures category asJson =>
    return .ofExcept (← (Command.signatureList i.root i.settings category asJson).run)
  | .validateCatalogue directory =>
    return .ofExcept (← (Command.catalogueCheck i.root directory).run)

namespace Program

/-- What the program leaves behind. -/
structure Answer where
  /-- Zero if all went well, one if the command failed, two if there was no sense in the words. -/
  exitCode : Nat
  output : String := ""
  errors : String := ""
  deriving DecidableEq, Repr

/-- How the program is used. -/
def usage : String :=
  Text.unlines ["Usage: sigscope [--root DIR] [--config FILE] [--verbose] COMMAND", "",
    "  init [--name NAME] [--force]",
    "  analyze ANALYZER (--binary FILE | --facts FILE) [--provider NAME] [--arch NAME]",
    "          [--json] [--save] [--top N] [--min-confidence X]",
    "  analyzers [--json]",
    "  signatures [--category NAME] [--json]",
    "  validate-catalogue --dir DIR"]

/-- Answers a command line. -/
def answer (words : List String) : m Answer := do
  match CommandLine.parse words with
  | .error .help => return { exitCode := 0, output := usage }
  | .error .version => return { exitCode := 0, output := "sigscope " ++ programVersion ++ "\n" }
  | .error .misuse => return { exitCode := 2, errors := usage }
  | .ok invocation =>
    let outcome ← invocation.run
    match outcome.failure with
    | none => return { exitCode := 0, output := outcome.output }
    | some e => return { exitCode := 1, output := outcome.output, errors := e.text }

end Program

end TechniqueScan
