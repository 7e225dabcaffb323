/-!
Texts that consist of lines.
-/

namespace TechniqueScan.Text

/-- Lines as one text, each of them ended. -/
def unlines (lines : List String) : String := String.join (lines.map (· ++ "\n"))

end TechniqueScan.Text
