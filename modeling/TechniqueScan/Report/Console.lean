import TechniqueScan.Decimal.Notation
import TechniqueScan.Run
import TechniqueScan.Text.Lines

/-!
Outcomes of runs as text for a console.
-/

namespace TechniqueScan.Console

open Decimal

/-- What a report is about, and how serious it is. -/
def heading (r : Report Float) : List String :=
  let count (n : Nat) : String := toString n
  [ r.title,
    String.ofList (List.replicate r.title.utf8ByteSize '='),
    "Binary: " ++ r.binaryId,
    "Facts: " ++ count r.facts.total ++ " (symbols " ++ count r.facts.symbols ++ ", strings "
      ++ count r.facts.strings ++ ", constants " ++ count r.facts.constants ++ ", instructions "
      ++ count r.facts.instructions ++ ", xrefs " ++ count r.facts.references ++ ")",
    "Overall risk: " ++ fixed 2 r.overallRiskScore ++ " (" ++ r.riskLevel.name ++ ")" ]

/-- A finding with its evidence. -/
def finding (f : Finding Float) : List String :=
  [ "  - " ++ fixed 4 f.confidence ++ " " ++ f.title ++ " @ " ++ f.scope.toText ++ " 0x"
      ++ Text.hexText 8 f.address.toNat ++ " (" ++ f.rule.getD "signature" ++ ")",
    "      signatures: " ++ ", ".intercalate f.signatures ]
    ++ f.evidence.map ("      " ++ ·)

/-- The findings of a category, and how many of them are not listed. -/
def category (c : CategoryReport Float) : List String :=
  let hidden := c.totalFindings - c.findings.length
  ("[" ++ c.category.id ++ "] " ++ c.label ++ ": " ++ toString c.totalFindings
      ++ " finding(s), score " ++ fixed 4 c.score)
    :: c.findings.flatMap finding
    ++ (if hidden = 0 then [] else ["  ... " ++ toString hidden ++ " more"])

def procedure (p : ProcedureSummary Float) : String :=
  "  - " ++ p.scope.toText ++ " [" ++ ", ".intercalate (p.categories.map Category.id)
    ++ "] findings=" ++ toString p.findingCount ++ " max=" ++ fixed 4 p.maxConfidence

/-- Lines under a heading that counts them, behind an empty line; nothing if there are none. -/
def counted (heading : String) (lines : List String) : List String :=
  if lines.isEmpty then []
  else "" :: (heading ++ " (" ++ toString lines.length ++ "):") :: lines

/-- The outcome of a run. -/
def render (o : RunOutcome Float) : String :=
  Text.unlines (heading o.report ++ [""]
    ++ o.report.perCategory.flatMap (fun (_, c) => category c)
    ++ counted "Procedures" (o.report.procedures.map procedure)
    ++ counted "Warnings" (o.warnings.map fun w => "  - " ++ w.message))

end TechniqueScan.Console
