import TechniqueScan.Fact
import TechniqueScan.Files.Error
import TechniqueScan.NumberText

/-!
Why the facts about a binary cannot be had.
-/

namespace TechniqueScan

/-- What is wrong with an input. -/
inductive Malformation where
  | emptyFile
  /-- An instruction of a snapshot is in no procedure. -/
  | strayInstruction (mnemonic : String) (address : UInt64)
  /-- A text that should denote a number does not. -/
  | number (text : String) (fault : Document.NumberFault)
  /-- It is no document, or not one of a snapshot. -/
  | notASnapshot
  /-- It is no container of the kind it says it is. -/
  | notAContainer
  deriving DecidableEq, Repr

def Malformation.message : Malformation → String
  | emptyFile => "file is empty"
  | strayInstruction mnemonic address =>
    "instruction '" ++ mnemonic ++ "' at " ++ Fact.hexNumber address ++ " has no procedure"
  | number text fault => "invalid number '" ++ text ++ "': " ++ NumberText.reason fault
  | notASnapshot => "not a snapshot"
  | notAContainer => "not a complete container"

/-- Why a provider yields no facts. -/
inductive FactError where
  | missingBinary (path : String)
  | unreadable (path : String) (cause : SystemError)
  | malformed (path : String) (what : Malformation)
  | unsupportedFormat (what : String)
  | backend (what : String)
  deriving DecidableEq, Repr

def FactError.message : FactError → String
  | missingBinary path => "Binary not found at " ++ path
  | unreadable path cause => "Failed to read " ++ path ++ ": " ++ cause.message
  | malformed path what => "Malformed input " ++ path ++ ": " ++ what.message
  | unsupportedFormat what => "Unsupported format: " ++ what
  | backend what => "Fact provider error: " ++ what

end TechniqueScan
