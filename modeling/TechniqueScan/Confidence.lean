import TechniqueScan.Arithmetic

/-!
How weights of evidence combine. Each weight is the chance that its evidence alone is decisive;
the combined confidence is the chance that not all of it is wrong, kept to four decimals.
-/

namespace TechniqueScan

open Arithmetic

variable {α : Type} [Arithmetic α]

/-- A confidence moved into the unit interval and kept to four decimals; no number counts as none. -/
def roundConfidence (value : α) : α :=
  if isNaN value then ofNat 0 else roundTo 4 (clampUnit value)

/-- The chance that every piece of evidence is wrong. -/
def residual (weights : List α) : α :=
  weights.foldl (fun product w => mul product (sub (ofNat 1) (clampUnit w))) (ofNat 1)

/-- The confidence in independent pieces of evidence. -/
def combineWeights (weights : List α) : α :=
  roundConfidence (sub (ofNat 1) (residual weights))

/-- The confidence in evidence that a rule ties together: a positive boost is one more piece. -/
def confidenceFor (weights : List α) (boost : α) : α :=
  if lt (ofNat 0) boost then combineWeights (weights ++ [boost]) else combineWeights weights

end TechniqueScan
