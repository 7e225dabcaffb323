import TechniqueScan.CommandLine
import TechniqueScan.Document.JsonText
import TechniqueScan.Report.Console
import TechniqueScan.Run.Codec
import TechniqueScan.Workspace

/-!
The analysis of an input in a workspace: the run itself, what is shown of it, and what is kept.
-/

namespace TechniqueScan

/-- The time of day, as a text. -/
class Clock (m : Type → Type) where
  now : m String

instance {m : Type → Type} {ε : Type} [Monad m] [Clock m] : Clock (ExceptT ε m) where
  now := ExceptT.lift Clock.now

/-- The version of the program that outputs are marked with. -/
def programVersion : String := "0.1.0"

namespace Analysis

open Document

/-- A run that has come to its end. -/
structure Finished where
  analyzer : Analyzer
  /-- The path of the input. -/
  input : String
  provider : Provider
  outcome : RunOutcome Float
  startedAt : String
  finishedAt : String

/-- What is known of a run besides its report. -/
def Finished.metadata (f : Finished) (digest : String) : Value :=
  let report := f.outcome.report
  .fields [("analyzer", .text f.analyzer.name),
    ("binary", .text (Path.outputName f.input)),
    ("binary_id", .text report.binaryId),
    ("input", .text f.input),
    ("input_sha256", .text digest),
    ("provider", .text f.provider.name),
    ("started_at", .text f.startedAt),
    ("finished_at", .text f.finishedAt),
    ("total_findings", .natural report.totalFindings),
    ("overall_risk_score", .real report.overallRiskScore),
    ("risk_level", .text report.riskLevel.name),
    ("warnings", .natural f.outcome.warnings.length),
    ("tool_version", .text programVersion)]

/-- The path of an input as it is given. -/
def inputPath : InputChoice → String
  | .binary path => path
  | .facts path => path

/-- The name of the provider unless one is asked for. -/
def usualProvider (settings : Settings Float) : InputChoice → String
  | .binary _ => settings.provider.getD Provider.disassembly.name
  | .facts _ => Provider.snapshot.name

/-- The options of a run: those of the workspace, with what is asked for in their place. -/
def options (settings : Settings Float) (q : AnalysisRequest) : RunOptions Float :=
  let usual := settings.runOptions
  { usual with
    report := { usual.report with
      topN := q.topN <|> usual.report.topN
      minConfidence := q.minConfidence.getD usual.report.minConfidence } }

variable {m : Type → Type} [Monad m] [Files m]

/-- Runs an analyzer. The catalogue is looked at first, then the input, then the provider. -/
def perform [Clock m] (w : Workspace) (q : AnalysisRequest) :
    ExceptT CommandError m Finished := do
  let registry ← w.registry
  let input ← Workspace.findInput w.layout.root (inputPath q.input)
  if !(← Files.isFile input) then throw (.missingInput input)
  let name := q.provider.getD (usualProvider w.settings q.input)
  match Provider.ofName? name with
  | none => throw (.unknownProvider name)
  | some provider =>
    let startedAt ← Clock.now
    let facts ← provider.facts ⟨input, q.architecture, w.settings.maxInstructions⟩
    match Run.analyzeFacts registry (options w.settings q) (fun _ => false) facts q.analyzer with
    | .error e => throw (.analysis input e)
    | .ok outcome =>
      return { analyzer := q.analyzer, input, provider, outcome, startedAt, finishedAt := ← Clock.now }

/-- An outcome as JSON that ends its last line. -/
def json (o : RunOutcome Float) : String := JsonText.pretty 0 o.encode ++ "\n"

/-- Keeps the report of a run and what is known besides; yields the directory of both. -/
def keep (w : Workspace) (f : Finished) : ExceptT CommandError m String := do
  let directory := w.layout.analyzerDir (Path.outputName f.input) f.analyzer.name
  match ← Files.makeDirectories directory with
  | .error e => throw (.outputDirectory directory e)
  | .ok () =>
    let report := Path.join directory "report.json"
    match ← Files.writeText report (json f.outcome) with
    | .error e => throw (.report report e)
    | .ok () =>
      match ← Files.read f.input with
      | .error e => throw (.digest f.input e)
      | .ok content =>
        let metadata := Path.join directory "run_metadata.json"
        let text := JsonText.pretty 0 (f.metadata (Digest.sha256 content))
        match ← Files.writeText metadata text with
        | .error e => throw (.metadata metadata e)
        | .ok () => return directory

end Analysis

end TechniqueScan
