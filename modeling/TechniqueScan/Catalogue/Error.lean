import TechniqueScan.Category
import TechniqueScan.Decimal.Notation
import TechniqueScan.Files.Error

/-!
The ways in which a catalogue can be refused, and what is said of each.
-/

namespace TechniqueScan

/-- What is wrong with a signature besides an empty pattern. -/
inductive SignatureFault where
  | emptyId
  | severalKinds
  | targetWithoutRegex
  | invertedRange
  deriving DecidableEq, Repr

def SignatureFault.message : SignatureFault → String
  | emptyId => "signature id must not be empty"
  | severalKinds => "a match clause must set exactly one pattern kind"
  | targetWithoutRegex => "'on' is only valid alongside 'regex'"
  | invertedRange => "numeric range has min greater than max"

/-- What is wrong with a rule by itself. -/
inductive RuleFault (α : Type) where
  | emptyId
  | listedTwice (signature : String)
  | tooFewSignatures
  | boostOutOfRange (boost : α)

def RuleFault.message : RuleFault Float → String
  | .emptyId => "rule id must not be empty"
  | .listedTwice signature => "signature '" ++ signature ++ "' listed twice"
  | .tooFewSignatures => "a composite rule needs at least two signatures"
  | .boostOutOfRange boost => "boost " ++ Decimal.plain boost ++ " must lie in [0, 1)"

/-- Why a catalogue was refused. -/
inductive CatalogueError (α : Type) where
  | unreadable (path : String) (cause : SystemError)
  /-- A file is no document, or not one of a catalogue. -/
  | notACatalogue (source : String)
  | unsupportedVersion (source : String) (found : Nat)
  | unknownCategory (source category : String)
  | duplicateId (id : String)
  | emptyPattern (signature : String)
  | invalidWeight (signature : String) (weight : α)
  | invalidRegex (signature : String)
  | malformedSignature (signature : String) (fault : SignatureFault)
  | unknownSignature (rule signature : String)
  | foreignSignature (rule : String) (ruleCategory : Category) (signature : String)
      (signatureCategory : Category)
  | invalidRule (rule : String) (fault : RuleFault α)
  | noFiles (directory : String)

namespace CatalogueError

/-- The version of the catalogue format that is understood. -/
def supportedVersion : Nat := 1

def message : CatalogueError Float → String
  | .unreadable path cause => "Failed to read catalogue " ++ path ++ ": " ++ cause.message
  | .notACatalogue source => "Failed to parse catalogue " ++ source
  | .unsupportedVersion source found =>
    "Catalogue " ++ source ++ " has version " ++ toString found ++ "; only version "
      ++ toString supportedVersion ++ " is supported"
  | .unknownCategory source category =>
    "Catalogue " ++ source ++ " declares unknown category '" ++ category ++ "'"
  | .duplicateId id => "Duplicate signature or rule id '" ++ id ++ "'"
  | .emptyPattern signature => "Signature '" ++ signature ++ "' has an empty pattern"
  | .invalidWeight signature weight =>
    "Signature '" ++ signature ++ "' has weight " ++ Decimal.plain weight
      ++ "; weights must lie in (0, 1]"
  | .invalidRegex signature => "Signature '" ++ signature ++ "' has an invalid regex"
  | .malformedSignature signature fault =>
    "Signature '" ++ signature ++ "' is malformed: " ++ fault.message
  | .unknownSignature rule signature =>
    "Rule '" ++ rule ++ "' references unknown signature '" ++ signature ++ "'"
  | .foreignSignature rule ruleCategory signature signatureCategory =>
    "Rule '" ++ rule ++ "' (" ++ ruleCategory.id ++ ") references '" ++ signature
      ++ "' from category " ++ signatureCategory.id
  | .invalidRule rule fault => "Rule '" ++ rule ++ "' is invalid: " ++ fault.message
  | .noFiles directory => "No catalogue files (*.yaml, *.yml) found in " ++ directory

end CatalogueError

end TechniqueScan
