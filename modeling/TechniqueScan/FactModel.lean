import TechniqueScan.Fact

/-!
All facts about one binary, in their canonical order. The order in which facts were supplied and
how often each was supplied leave no trace, so an index into the list identifies a fact. An index is a
number of any size here; it fits into 32 bits as long as there are no more than `2 ^ 32` facts.
-/

namespace TechniqueScan

/-- How many facts there are of each kind. -/
structure FactCounts where
  symbols : Nat := 0
  strings : Nat := 0
  constants : Nat := 0
  instructions : Nat := 0
  references : Nat := 0
  deriving DecidableEq, Repr

namespace FactCounts

def total (c : FactCounts) : Nat :=
  c.symbols + c.strings + c.constants + c.instructions + c.references

/-- The counts with one more fact. -/
def add (c : FactCounts) (f : Fact) : FactCounts :=
  match f.seen with
  | .symbol .. => { c with symbols := c.symbols + 1 }
  | .string _ => { c with strings := c.strings + 1 }
  | .number .. => { c with constants := c.constants + 1 }
  | .instruction _ => { c with instructions := c.instructions + 1 }
  | .reference _ => { c with references := c.references + 1 }

end FactCounts

/-- A list without the items that equal the one before them. -/
def dropRepeats {α : Type} [DecidableEq α] : List α → List α
  | [] => []
  | a :: rest =>
    match dropRepeats rest with
    | b :: more => if a = b then b :: more else a :: b :: more
    | [] => [a]

/-- The items in ascending order, each once. -/
def ascending {α : Type} [DecidableEq α] [Ord α] (items : List α) : List α :=
  dropRepeats (items.mergeSort fun a b => (compare a b).isLE)

/-- The facts about one binary. -/
structure FactModel where
  binaryId : String
  facts : Array Fact
  /-- For each procedure with instructions, in order of names, the indices of its instructions. -/
  sequences : List (String × List Nat)
  deriving DecidableEq

namespace FactModel

/-- The procedure whose sequence of instructions a fact belongs to. -/
def sequenceOf? (f : Fact) : Option String :=
  if f.isInstruction then f.scope.procedureName? else none

/-- The indices of the instructions of each procedure, from an index on, for facts in order. -/
def sequencesFrom : Nat → List Fact → List (String × List Nat)
  | _, [] => []
  | i, f :: rest =>
    match sequenceOf? f with
    | none => sequencesFrom (i + 1) rest
    | some name =>
      match sequencesFrom (i + 1) rest with
      | (n, is) :: more => if n = name then (n, i :: is) :: more else (name, [i]) :: (n, is) :: more
      | [] => [(name, [i])]

/-- The model of a list of facts. -/
def ofFacts (binaryId : String) (facts : List Fact) : FactModel :=
  let kept := ascending (facts.map Fact.normal)
  ⟨binaryId, kept.toArray, sequencesFrom 0 kept⟩

def size (m : FactModel) : Nat := m.facts.size

def fact? (m : FactModel) (i : Nat) : Option Fact := m.facts[i]?

/-- The procedures with facts, in order of names. -/
def procedures (m : FactModel) : List String :=
  dropRepeats (m.facts.toList.filterMap fun f => f.scope.procedureName?)

def counts (m : FactModel) : FactCounts := m.facts.foldl FactCounts.add {}

end FactModel

end TechniqueScan
