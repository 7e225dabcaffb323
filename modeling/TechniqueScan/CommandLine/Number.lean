import TechniqueScan.Document.Plain
import TechniqueScan.NumberText

/-!
Numbers as they are given on a command line.
-/

namespace TechniqueScan.CommandLine

open Document

/-- A word of 64 bits in decimal digits. -/
def natural? (s : String) : Option Nat := (NumberText.ofSigned 10 s.toList).toOption

/-- A number without a sign: a decimal one, infinity, or no number, in any case of letters. -/
def magnitude? (cs : List Char) : Option Float :=
  let word := (String.ofList cs).toLower
  if word = "inf" ∨ word = "infinity" then some (1.0 / 0.0)
  else if word = "nan" then some (0.0 / 0.0)
  else (decimalParts? cs).map fun d => d.toFloat?.getD (1.0 / 0.0)

/-- A number of double precision. -/
def real? (s : String) : Option Float :=
  match s.toList with
  | '-' :: rest => (magnitude? rest).map fun x => -x
  | '+' :: rest => magnitude? rest
  | cs => magnitude? cs

end TechniqueScan.CommandLine
