import TechniqueScan.Arithmetic
import TechniqueScan.FactModel
import TechniqueScan.Finding

/-!
Merging equal findings, and the order in which findings are listed. Two findings are equal if they
are of one category, in one scope, and rest on the same signatures.
-/

namespace TechniqueScan

open Arithmetic

variable {α : Type} [Arithmetic α]

/-- What a function makes of some items, each of them in a task of its own if asked so. -/
def mapEach {β γ : Type} (parallel : Bool) (f : β → γ) (items : List β) : List γ :=
  if parallel then (items.map fun b => Task.spawn fun _ => f b).map Task.get else items.map f

/-- What makes two findings equal. -/
structure FindingKey where
  category : Category
  scope : Scope
  /-- The signatures in ascending order. -/
  signatures : List String
  deriving DecidableEq, Repr

namespace Finding

def key (f : Finding α) : FindingKey :=
  ⟨f.category, f.scope, f.signatures.mergeSort fun a b => (Ord.compare a b).isLE⟩

/--
A finding merged with a later equal one: all evidence of both, the lower address, and the rest
from the one with the higher confidence, of two equal confidences the earlier one.
-/
def merge (kept other : Finding α) : Finding α :=
  let best := if lt kept.confidence other.confidence then other else kept
  { best with
    category := kept.category
    scope := kept.scope
    evidence := ascending (kept.evidence ++ other.evidence)
    address := if other.address < kept.address then other.address else kept.address }

/-- The order of a listing: by falling confidence, then by place, signatures and title. -/
def listingOrder (a b : Finding α) : Ordering :=
  (compareTotal b.confidence a.confidence)
    |>.then (Ord.compare a.scope b.scope)
    |>.then (Ord.compare a.address b.address)
    |>.then (Ord.compare a.signatures b.signatures)
    |>.then (Ord.compare a.title b.title)

end Finding

/-- Merges a finding into the first equal one, or adds it at the end. -/
def absorb (k : FindingKey) (f : Finding α) :
    List (FindingKey × Finding α) → List (FindingKey × Finding α)
  | [] => [(k, f)]
  | (k', g) :: rest =>
    if k' = k then (k', g.merge f) :: rest else (k', g) :: absorb k f rest

/-- Findings with equal ones merged, in the order in which they first appear. -/
def deduplicate (findings : List (Finding α)) : List (Finding α) :=
  (findings.foldl (fun kept f => absorb f.key f kept) []).map (·.2)

/-- Findings in listing order. -/
def rank (findings : List (Finding α)) : List (Finding α) :=
  findings.mergeSort fun a b => (a.listingOrder b).isLE

/-- The findings of one category, merged, without those of too low a confidence, in listing order. -/
def scoreGroup (minConfidence : α) (findings : List (Finding α)) : List (Finding α) :=
  rank ((deduplicate findings).filter fun f => le minConfidence f.confidence)

omit [Arithmetic α] in
/-- The findings of each category that has some. -/
def groups (findings : List (Finding α)) : List (Category × List (Finding α)) :=
  Category.all.filterMap fun c =>
    match findings.filter fun f => f.category = c with
    | [] => none
    | group => some (c, group)

/-- The findings of each category that has some, scored category by category. -/
def scoreAll (minConfidence : α) (findings : List (Finding α)) (parallel : Bool := false) :
    List (Category × List (Finding α)) :=
  mapEach parallel (fun (c, group) => (c, scoreGroup minConfidence group)) (groups findings)

end TechniqueScan
