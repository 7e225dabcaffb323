import TechniqueScan.Analyzer
import TechniqueScan.Catalogue.Registry
import TechniqueScan.Document.JsonText
import TechniqueScan.Report.Codec
import TechniqueScan.Text.Lines

/-!
Analyzers and catalogues as lists for a user, as text or as JSON.
-/

namespace TechniqueScan.Listing

open Document

/-- A document as text that ends its last line. -/
def json (v : Value) : String := JsonText.pretty 0 v ++ "\n"

/-! ## Analyzers -/

def analyzerText (a : Analyzer) : String :=
  "  - " ++ a.name ++ " - " ++ a.title ++ " [" ++ ", ".intercalate (a.categories.map Category.id)
    ++ "]"

def analyzerDocument (a : Analyzer) : Value :=
  .fields [("name", .text a.name), ("title", .text a.title),
    ("categories", .items (a.categories.map Category.encode))]

/-- Every analyzer with the categories it activates. -/
def analyzers (asJson : Bool) : String :=
  if asJson then json (.items (Analyzer.every.map analyzerDocument))
  else
    Text.unlines (("Analyzers (" ++ toString Analyzer.every.length ++ "):")
      :: Analyzer.every.map analyzerText)

/-! ## Signatures and rules -/

def signatureLines (s : Signature Float) : List String :=
  ("  - " ++ s.id ++ " [" ++ s.category.id ++ "] weight=" ++ Decimal.plain s.weight ++ " - "
      ++ s.description)
    :: s.clauses.map fun c => "      " ++ c.summary

def ruleText (r : Rule Float) : String :=
  "  - " ++ r.id ++ " [" ++ r.category.id ++ "] boost=" ++ Decimal.plain r.boost ++ " <- "
    ++ " + ".intercalate r.signatures

def signatureDocument (s : Signature Float) : Value :=
  .fields [("id", .text s.id), ("category", s.category.encode), ("weight", .real s.weight),
    ("description", .text s.description), ("clauses", textList (s.clauses.map Pattern.summary))]

def ruleDocument (r : Rule Float) : Value :=
  .fields [("id", .text r.id), ("category", r.category.encode), ("boost", .real r.boost),
    ("description", .text r.description), ("signatures", textList r.signatures)]

/-- The signatures and rules of a catalogue, or only those of one category. -/
def catalogue (r : Registry Float) (wanted : Option Category) (asJson : Bool) : String :=
  let signatures := r.signatures.filter fun s => wanted.all (· = s.category)
  let rules := r.rules.filter fun s => wanted.all (· = s.category)
  if asJson then
    json (.fields [("signatures", .items (signatures.map signatureDocument)),
      ("rules", .items (rules.map ruleDocument))])
  else
    Text.unlines ((("Signatures (" ++ toString signatures.length ++ "):")
        :: signatures.flatMap signatureLines)
      ++ (("Rules (" ++ toString rules.length ++ "):")
        :: if rules.isEmpty then ["  (none)"] else rules.map ruleText))

/-- How many signatures and rules a catalogue in a directory has. -/
def summary (directory : String) (r : Registry Float) : String :=
  Text.unlines ([ "Catalogue OK: " ++ directory,
      "  Signatures: " ++ toString r.size,
      "  Rules: " ++ toString r.rules.length ]
    ++ Category.all.filterMap fun c =>
      let count := (r.signaturesFor c).length
      if count = 0 then none else some ("  - " ++ c.id ++ ": " ++ toString count))

end TechniqueScan.Listing
