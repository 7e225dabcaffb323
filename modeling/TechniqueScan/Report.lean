import TechniqueScan.Report.Settings
import TechniqueScan.Scoring

/-!
Reports: the findings of each active category in listing order, what was found in each procedure,
and the risk that all of it adds up to. A report is data; its texts are made elsewhere.
-/

namespace TechniqueScan

open Arithmetic

/-- How serious a risk score is. -/
inductive RiskLevel where
  | none | low | medium | high | critical
  deriving DecidableEq, Repr

namespace RiskLevel

def all : List RiskLevel := [none, low, medium, high, critical]

def name : RiskLevel → String
  | none => "none"
  | low => "low"
  | medium => "medium"
  | high => "high"
  | critical => "critical"

def ofName? (s : String) : Option RiskLevel := all.find? fun l => l.name = s

variable {α : Type} [Arithmetic α]

/-- The level of a score; what is no number counts as critical. -/
def ofScore (score : α) : RiskLevel :=
  if le score (Arithmetic.ofNat 0) then none
  else if lt score (Arithmetic.ofNat 25) then low
  else if lt score (Arithmetic.ofNat 50) then medium
  else if lt score (Arithmetic.ofNat 75) then high
  else critical

end RiskLevel

/-- The findings of one category. -/
structure CategoryReport (α : Type) where
  category : Category
  label : String
  /-- How many findings there are, listed or not. -/
  totalFindings : Nat
  maxConfidence : α
  /-- What the category adds to the risk: its strongest finding. -/
  score : α
  findings : List (Finding α)
  deriving DecidableEq, Repr

/-- What was found in one procedure, whatever the category. -/
structure ProcedureSummary (α : Type) where
  scope : Scope
  categories : List Category
  findingCount : Nat
  maxConfidence : α
  deriving DecidableEq, Repr

/-- The result of an analysis. -/
structure Report (α : Type) where
  binaryId : String
  title : String
  /-- The active categories with their findings, in report order. -/
  perCategory : List (Category × CategoryReport α)
  procedures : List (ProcedureSummary α)
  overallRiskScore : α
  riskLevel : RiskLevel
  facts : FactCounts
  deriving DecidableEq, Repr

namespace Report

variable {α : Type}

/-- How many findings there are, listed or not. -/
def totalFindings (r : Report α) : Nat :=
  r.perCategory.foldr (fun (_, c) total => c.totalFindings + total) 0

/-- The findings that are listed. -/
def findings (r : Report α) : List (Finding α) := r.perCategory.flatMap fun (_, c) => c.findings

variable [Arithmetic α]

/-- The title of a report that is given none. -/
def defaultTitle : String := "Signature Scan Report"

/-- The greatest of 0 and some confidences. -/
def greatest (confidences : List α) : α := confidences.foldl max (ofNat 0)

/-- The section of a category with these findings. -/
def sectionOf (settings : ReportSettings α) (category : Category) (findings : List (Finding α)) :
    CategoryReport α :=
  let ranked := rank findings
  let strongest := (ranked.head?.map (·.confidence)).getD (ofNat 0)
  { category
    label := category.label
    totalFindings := ranked.length
    maxConfidence := strongest
    score := strongest
    findings := match settings.topN with
      | some n => ranked.take n
      | none => ranked }

/-- What some findings say about a scope. -/
def summaryOf (findings : List (Finding α)) (scope : Scope) : ProcedureSummary α :=
  let here := findings.filter fun f => f.scope = scope
  { scope
    categories := Category.all.filter fun c => here.any fun f => f.category = c
    findingCount := here.length
    maxConfidence := greatest (here.map (·.confidence)) }

/-- The procedures with findings, by falling confidence, then by name. -/
def summaries (findings : List (Finding α)) : List (ProcedureSummary α) :=
  let scopes := ascending ((findings.map (·.scope)).filter Scope.isProcedure)
  (scopes.map (summaryOf findings)).mergeSort fun a b =>
    ((compareTotal b.maxConfidence a.maxConfidence).then (compare a.scope b.scope)).isLE

/-- The weighted mean of some scores in hundredths, kept to two decimals; 0 if nothing weighs. -/
def riskScore (weighted : List (α × α)) : α :=
  let total := weighted.foldl (fun t (weight, _) => add t weight) (ofNat 0)
  let sum := weighted.foldl (fun t (weight, score) => add t (mul weight score)) (ofNat 0)
  if lt (ofNat 0) total then roundTo 2 (div (mul (ofNat 100) sum) total) else ofNat 0

/-- The report on some findings; those of inactive categories are left out. -/
def build (settings : ReportSettings α) (active : List Category) (title binaryId : String)
    (findings : List (Finding α)) : Report α :=
  let grouped := (Category.all.filter active.contains).map fun c =>
    (c, findings.filter fun f => f.category = c)
  let sections := grouped.map fun (c, group) => (c, sectionOf settings c group)
  let risk := riskScore (sections.map fun (c, s) => (settings.weightFor c, s.maxConfidence))
  { binaryId
    title
    perCategory := sections
    procedures := summaries (grouped.flatMap (·.2))
    overallRiskScore := risk
    riskLevel := .ofScore risk
    facts := {} }

end Report

end TechniqueScan
