import TechniqueScan.Fact.Codec
import TechniqueScan.Report

/-!
Findings, reports and the settings of reports as documents, and back.
-/

namespace TechniqueScan

open Document

def Category.encode (c : Category) : Value := .text c.id

def Category.decode (v : Value) : Decoded Category := v.asName Category.ofId?

def textList (ts : List String) : Value := .items (ts.map .text)

/-! ## Findings -/

namespace Finding

def encode (f : Finding Float) : Value :=
  .fields ([("category", f.category.encode), ("location", f.scope.encode),
      ("address", wordValue f.address)]
    ++ Value.whenSome "rule" (f.rule.map .text)
    ++ [("title", .text f.title), ("contributing_signatures", textList f.signatures),
      ("confidence", .real f.confidence), ("evidence", textList f.evidence)])

def fieldNames : List String :=
  ["category", "location", "address", "rule", "title", "contributing_signatures", "confidence",
    "evidence"]

def decode (v : Value) : Decoded (Finding Float) :=
  (v.asRecord fieldNames).andThen fun r =>
    Finding.mk <$> r.required "category" Category.decode
      <*> r.required "location" Scope.decode
      <*> r.required "address" decodeWord
      <*> r.optional "rule" Value.asText
      <*> r.required "title" Value.asText
      <*> r.required "contributing_signatures" (Value.asList Value.asText)
      <*> r.required "confidence" Value.asReal
      <*> r.required "evidence" (Value.asList Value.asText)

end Finding

namespace RuleConflict

def encodeFields (c : RuleConflict) : List (String × Value) :=
  [("category", c.category.encode), ("scope", c.scope.encode),
    ("signature_id", .text c.signature), ("kept_rule", .text c.kept),
    ("dropped_rule", .text c.dropped)]

def encode (c : RuleConflict) : Value := .fields c.encodeFields

def decode (v : Value) : Decoded RuleConflict :=
  (v.asRecord ["category", "scope", "signature_id", "kept_rule", "dropped_rule"]).andThen fun r =>
    RuleConflict.mk <$> r.required "category" Category.decode
      <*> r.required "scope" Scope.decode
      <*> r.required "signature_id" Value.asText
      <*> r.required "kept_rule" Value.asText
      <*> r.required "dropped_rule" Value.asText

end RuleConflict

/-! ## Reports -/

def RiskLevel.encode (l : RiskLevel) : Value := .text l.name

def RiskLevel.decode (v : Value) : Decoded RiskLevel := v.asName RiskLevel.ofName?

namespace CategoryReport

def encode (c : CategoryReport Float) : Value :=
  .fields [("category", c.category.encode), ("label", .text c.label),
    ("total_findings", .natural c.totalFindings), ("max_confidence", .real c.maxConfidence),
    ("score", .real c.score), ("findings", .items (c.findings.map Finding.encode))]

def fieldNames : List String :=
  ["category", "label", "total_findings", "max_confidence", "score", "findings"]

def decode (v : Value) : Decoded (CategoryReport Float) :=
  (v.asRecord fieldNames).andThen fun r =>
    CategoryReport.mk <$> r.required "category" Category.decode
      <*> r.required "label" Value.asText
      <*> r.required "total_findings" Value.asWord
      <*> r.required "max_confidence" Value.asReal
      <*> r.required "score" Value.asReal
      <*> r.required "findings" (Value.asList Finding.decode)

end CategoryReport

namespace ProcedureSummary

def encode (p : ProcedureSummary Float) : Value :=
  .fields [("scope", p.scope.encode), ("categories", .items (p.categories.map Category.encode)),
    ("finding_count", .natural p.findingCount), ("max_confidence", .real p.maxConfidence)]

def decode (v : Value) : Decoded (ProcedureSummary Float) :=
  (v.asRecord ["scope", "categories", "finding_count", "max_confidence"]).andThen fun r =>
    ProcedureSummary.mk <$> r.required "scope" Scope.decode
      <*> r.required "categories" (Value.asList Category.decode)
      <*> r.required "finding_count" Value.asWord
      <*> r.required "max_confidence" Value.asReal

end ProcedureSummary

/-- A table with categories as keys. -/
def encodeByCategory {β : Type} (encode : β → Value) (entries : List (Category × β)) : Value :=
  .fields (entries.map fun (c, b) => (c.id, encode b))

/-- Entries by category in report order; of several for one category the last one holds. -/
def latestByCategory {β : Type} (entries : List (Category × β)) : List (Category × β) :=
  Category.all.filterMap fun c => (entries.reverse.lookup c).map fun b => (c, b)

def decodeByCategory {β : Type} (decode : Value → Decoded β) (v : Value) :
    Decoded (List (Category × β)) :=
  latestByCategory <$> v.asTable Category.decode decode

namespace Report

def encode (r : Report Float) : Value :=
  .fields [("binary_id", .text r.binaryId), ("title", .text r.title),
    ("per_category", encodeByCategory CategoryReport.encode r.perCategory),
    ("procedures", .items (r.procedures.map ProcedureSummary.encode)),
    ("overall_risk_score", .real r.overallRiskScore), ("risk_level", r.riskLevel.encode),
    ("facts", r.facts.encode)]

def fieldNames : List String :=
  ["binary_id", "title", "per_category", "procedures", "overall_risk_score", "risk_level", "facts"]

def decode (v : Value) : Decoded (Report Float) :=
  (v.asRecord fieldNames).andThen fun r =>
    Report.mk <$> r.required "binary_id" Value.asText
      <*> r.required "title" Value.asText
      <*> r.required "per_category" (decodeByCategory CategoryReport.decode)
      <*> r.required "procedures" (Value.asList ProcedureSummary.decode)
      <*> r.required "overall_risk_score" Value.asReal
      <*> r.required "risk_level" RiskLevel.decode
      <*> r.withDefault "facts" {} FactCounts.decode

end Report

/-! ## Settings -/

namespace ReportSettings

def encode (s : ReportSettings Float) : Value :=
  .fields (Value.whenSome "top_n" (s.topN.map .natural)
    ++ (if s.categoryWeights.isEmpty then []
      else [("category_weights", encodeByCategory .real s.categoryWeights)])
    ++ [("min_confidence", .real s.minConfidence)])

def decode (v : Value) : Decoded (ReportSettings Float) :=
  (v.asRecord ["top_n", "category_weights", "min_confidence"]).andThen fun r =>
    ReportSettings.mk <$> r.optional "top_n" Value.asWord
      <*> r.withDefault "category_weights" [] (decodeByCategory Value.asReal)
      <*> r.withDefault "min_confidence" 0.0 Value.asReal

end ReportSettings

end TechniqueScan
