import TechniqueScan.Analyzer
import TechniqueScan.Correlation
import TechniqueScan.Provider.Error
import TechniqueScan.Report

/-!
A run of an analyzer: scanning, correlating, scoring, reporting. A run that was told to stop does
so where its next stage would begin, and a run that does not finish reports nothing.
-/

namespace TechniqueScan

/-- The stages of a run. -/
inductive Stage where
  | scanning | correlating | scoring | reporting
  deriving DecidableEq, Repr

def Stage.name : Stage → String
  | scanning => "scanning"
  | correlating => "correlating"
  | scoring => "scoring"
  | reporting => "reporting"

/-- What a successful run reports besides its report. -/
inductive RunWarning where
  | ruleConflict (c : RuleConflict)
  /-- There are no signatures for an active category. -/
  | noSignatures (category : Category)
  deriving DecidableEq, Repr

def RunWarning.message : RunWarning → String
  | ruleConflict c => c.message
  | noSignatures category => "no signatures loaded for category " ++ category.id

/-- What a run yields. -/
structure RunOutcome (α : Type) where
  report : Report α
  warnings : List RunWarning
  deriving DecidableEq, Repr

/-- Why a run yields nothing. -/
inductive RunError where
  | cancelled (next : Stage)
  | factAccess (during : Stage) (cause : FactError)

/-- What is said of it; what caused it is said separately. -/
def RunError.message : RunError → String
  | cancelled next => "Run cancelled at the start of " ++ next.name
  | factAccess during cause => "Run failed during " ++ during.name ++ ": " ++ cause.message

/-- The settings of a run. -/
structure RunOptions (α : Type) where
  report : ReportSettings α
  /-- Whether categories are scanned and scored side by side, which no result depends on. -/
  parallel : Bool := true

namespace Run

variable {α : Type}

/-- Passes to a stage, unless the run has been told to stop before it. -/
def enter (stopped : Stage → Bool) (next : Stage) : Except RunError Unit :=
  if stopped next then .error (.cancelled next) else .ok ()

/-- The warnings for active categories without signatures. -/
def missingSignatures (registry : Registry α) (active : List Category) : List RunWarning :=
  (active.filter fun c => (registry.signaturesFor c).isEmpty).map .noSignatures

/-- The raw matches of the active categories, in report order. -/
def rawMatches (registry : Registry α) (active : List Category) (m : FactModel)
    (parallel : Bool := false) : List RawMatch :=
  (mapEach parallel (fun c => registry.scan c m) active).flatten

/-- The outcome of a run on a model, its first stage already entered. -/
def finish [Arithmetic α] (registry : Registry α) (options : RunOptions α)
    (stopped : Stage → Bool) (m : FactModel) (a : Analyzer) : Except RunError (RunOutcome α) := do
  let raw := rawMatches registry a.categories m options.parallel
  enter stopped .correlating
  let correlation := correlate registry m raw
  enter stopped .scoring
  let scored := scoreAll options.report.minConfidence correlation.findings options.parallel
  enter stopped .reporting
  let report := Report.build options.report a.categories a.title m.binaryId
    (scored.flatMap (·.2))
  .ok { report := { report with facts := m.counts }
        warnings := missingSignatures registry a.categories
          ++ correlation.conflicts.map .ruleConflict }

/-- Runs an analyzer on a model. -/
def analyze [Arithmetic α] (registry : Registry α) (options : RunOptions α)
    (stopped : Stage → Bool) (m : FactModel) (a : Analyzer) : Except RunError (RunOutcome α) := do
  enter stopped .scanning
  finish registry options stopped m a

/-- Runs an analyzer on the facts that a request yields. -/
def analyzeFacts [Arithmetic α] (registry : Registry α) (options : RunOptions α)
    (stopped : Stage → Bool) (facts : Except FactError FactModel) (a : Analyzer) :
    Except RunError (RunOutcome α) := do
  enter stopped .scanning
  match facts with
  | .ok m => finish registry options stopped m a
  | .error cause => .error (.factAccess .scanning cause)

end Run

end TechniqueScan
