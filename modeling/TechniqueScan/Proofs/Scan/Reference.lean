import TechniqueScan.Proofs.FactModel

/-!
What a scan is to find, said without any arrangement of the signatures: which facts a pattern
accepts, which runs of instructions satisfy a window, and which hits of a signature follow.
-/

namespace TechniqueScan

namespace Pattern

/-- Whether a name is one that a pattern on names asks for. -/
def acceptsName : Pattern → String → Bool
  | names ns, name => ns.contains name || (SignatureIndex.bareName? name).any ns.contains
  | regex .symbol r, name => r.matchesIn ((SignatureIndex.bareName? name).getD name)
  | _, _ => false

/-- Whether a string is one that a pattern on strings asks for. -/
def acceptsString : Pattern → String → Bool
  | needles ts, value => ts.any fun t => textOccursIn t value
  | regex .string r, value => r.matchesIn value
  | _, _ => false

/-- Whether a number is one that a pattern on numbers asks for. -/
def acceptsNumber : Pattern → UInt64 → Bool
  | numbers p, value => p.contains value
  | _, _ => false

/-- Whether a single fact is what a pattern asks for. No instruction is, as windows take several. -/
def accepts (p : Pattern) (f : Fact) : Bool :=
  match f.seen with
  | .symbol name _ => p.acceptsName name
  | .reference r => r.targetName.any p.acceptsName
  | .string value => p.acceptsString value
  | .number value _ => p.acceptsNumber value
  | .instruction _ => false

end Pattern

/-! ## Hits -/

/-- Whether the fact with an index is an instruction that a step accepts. -/
def StepAccepts (m : FactModel) (s : OpcodeStep) (i : Nat) : Prop :=
  ∃ f ins, m.fact? i = some f ∧ f.seen = .instruction ins ∧ s.accepts ins

/-- Where a pattern hits in a model, and the facts that it hits there. -/
inductive PatternHit (m : FactModel) : Pattern → Location → List Nat → Prop
  /-- A fact that the pattern accepts. -/
  | fact {p : Pattern} {i : Nat} {f : Fact} (found : m.fact? i = some f) (accepted : p.accepts f) :
      PatternHit m p f.location [i]
  /-- Consecutive instructions of a procedure that satisfy the steps one by one. -/
  | run {steps : List OpcodeStep} {procedure : String} {i : Nat} {is : List Nat} {f : Fact}
      (consecutive : (i :: is) <:+: m.instructionsOf procedure)
      (satisfied : List.Forall₂ (StepAccepts m) steps (i :: is)) (first : m.fact? i = some f) :
      PatternHit m (.window steps) ⟨.procedure procedure, f.location.address⟩ (i :: is)

/-- Whether a fact is among those that a pattern hits in a procedure. -/
def HitIn (m : FactModel) (procedure : String) (p : Pattern) (i : Nat) : Prop :=
  ∃ l is, PatternHit m p l is ∧ l.scope = .procedure procedure ∧ i ∈ is

/-- Whether an address is the lowest among those of some facts. -/
def LowestAddress (m : FactModel) (is : List Nat) (address : UInt64) : Prop :=
  (∃ i ∈ is, ∃ f, m.fact? i = some f ∧ f.location.address = address) ∧
    ∀ i ∈ is, ∀ f, m.fact? i = some f → address ≤ f.location.address

/-- The hits of some signatures, each with the position of its signature. -/
inductive SignatureHit {α : Type} (m : FactModel) (signatures : List (Signature α)) : Hit → Prop
  /-- Every hit of the only clause. -/
  | single {k : Nat} {s : Signature α} {p : Pattern} {l : Location} {is : List Nat}
      (listed : signatures[k]? = some s) (clauses : s.clauses = [p]) (hit : PatternHit m p l is) :
      SignatureHit m signatures ⟨l, k, is⟩
  /-- A procedure in which each of several clauses hits, with all facts that they hit there. -/
  | joint {k : Nat} {s : Signature α} {procedure : String} {address : UInt64} {is : List Nat}
      (listed : signatures[k]? = some s) (several : s.isMultiClause)
      (each : ∀ p ∈ s.clauses, ∃ i, HitIn m procedure p i) (ascends : StrictlyAscending is)
      (union : ∀ i, i ∈ is ↔ ∃ p ∈ s.clauses, HitIn m procedure p i)
      (lowest : LowestAddress m is address) :
      SignatureHit m signatures ⟨⟨.procedure procedure, address⟩, k, is⟩

end TechniqueScan
