import Std.Data.TreeMap
import TechniqueScan.Catalogue.Registry
import TechniqueScan.Confidence
import TechniqueScan.Finding

/-!
From raw matches to findings. At each site, rules tie the signatures that occur together into one
finding; a rule with more signatures comes first, then the one declared first. Each signature is
given to one rule at most, and what no rule takes makes findings of its own.
-/

namespace TechniqueScan

/-- A scope and a category; only matches of one site are ever tied together. -/
structure Site where
  scope : Scope
  category : Category
  deriving DecidableEq, Repr

instance : Ord Site := ⟨compareLex (compareOn (·.scope)) (compareOn (·.category))⟩

def RawMatch.site (m : RawMatch) : Site := ⟨m.location.scope, m.category⟩

/-- The sites of some raw matches, in ascending order. -/
def sites (raw : List RawMatch) : List Site := ascending (raw.map RawMatch.site)

/-- The raw matches of a site, in their order. -/
def matchesAt (raw : List RawMatch) (s : Site) : List RawMatch := raw.filter fun m => m.site = s

variable {α : Type}

/-! ## Which rules fire -/

/-- Whether a rule is considered before another one. -/
def Rule.precedes (a b : Rule α) : Bool :=
  b.signatures.length < a.signatures.length
    || (a.signatures.length = b.signatures.length && a.order ≤ b.order)

/-- The rules all of whose signatures occur, in the order in which they are considered. -/
def candidates (rules : List (Rule α)) (found : List RawMatch) : List (Rule α) :=
  (rules.filter fun r => r.signatures.all fun id => found.any fun m => m.signatureId = id).mergeSort
    Rule.precedes

/-- The rules that fire at a site, and the conflicts of those that do not. -/
structure Selection (α : Type) where
  fired : List (Rule α) := []
  conflicts : List RuleConflict := []
  /-- The signatures that are taken, each with the fired rule that keeps it. -/
  claimed : Std.TreeMap String String := {}

namespace Selection

/-- The signatures of a rule that are taken, each with the rule that keeps it. -/
def overlaps (site : Site) (s : Selection α) (r : Rule α) : List RuleConflict :=
  r.signatures.filterMap fun id =>
    s.claimed[id]?.map fun kept => ⟨site.category, site.scope, id, kept, r.id⟩

/-- The selection with one more rule that fires, which takes its signatures. -/
def fire (s : Selection α) (r : Rule α) : Selection α :=
  { s with
    fired := s.fired ++ [r]
    claimed := r.signatures.foldl (fun claimed id => claimed.insert id r.id) s.claimed }

/-- A rule fires unless one of its signatures is taken. -/
def consider (site : Site) (s : Selection α) (r : Rule α) : Selection α :=
  match s.overlaps site r with
  | [] => s.fire r
  | conflicts => { s with conflicts := s.conflicts ++ conflicts }

/-- Considers rules one after the other. -/
def ofCandidates (site : Site) (rules : List (Rule α)) : Selection α :=
  rules.foldl (consider site) {}

end Selection

/-! ## Findings -/

/-- A signature behind a finding; an identifier may be unknown to the registry. -/
structure Contribution (α : Type) where
  id : String
  signature : Option (Signature α)

namespace Contribution

/-- What is unknown weighs nothing. -/
def weight [Arithmetic α] (c : Contribution α) : α :=
  (c.signature.map (·.weight)).getD (Arithmetic.ofNat 0)

/-- Catalogue order; what is unknown comes last, by its identifier. -/
def precedes (a b : Contribution α) : Bool :=
  match a.signature, b.signature with
  | some s, some t => s.order < t.order || (s.order = t.order && (compare a.id b.id).isLE)
  | some _, none => true
  | none, some _ => false
  | none, none => (compare a.id b.id).isLE

end Contribution

/-- The signatures of some matches, each once, in catalogue order. -/
def contributions (registry : Registry α) (members : List RawMatch) : List (Contribution α) :=
  ((ascending (members.map (·.signatureId))).map fun id =>
    (⟨id, registry.signature? id⟩ : Contribution α)).mergeSort Contribution.precedes

/-- The descriptions of the facts of some matches. -/
def evidenceOf (m : FactModel) (members : List RawMatch) : List String :=
  ascending (members.flatMap fun r => r.facts.filterMap fun i => (m.fact? i).map Fact.describe)

/-- The lowest address of some matches. -/
def lowestAddress : List RawMatch → UInt64
  | [] => 0
  | r :: rest =>
    rest.foldl (fun least r => if r.location.address < least then r.location.address else least)
      r.location.address

/-- The finding that some matches of a site make, tied together by a rule or alone. -/
def findingOf [Arithmetic α] (registry : Registry α) (m : FactModel) (site : Site)
    (rule : Option (Rule α)) (members : List RawMatch) : Finding α :=
  let parts := contributions registry members
  { category := site.category
    scope := site.scope
    address := lowestAddress members
    rule := rule.map (·.id)
    title := match rule with
      | some r => r.description
      | none => ((parts.head?.bind (·.signature)).map (·.description)).getD ""
    signatures := parts.map (·.id)
    confidence := confidenceFor (parts.map (·.weight))
      ((rule.map (·.boost)).getD (Arithmetic.ofNat 0))
    evidence := evidenceOf m members }

/-- Findings, and the conflicts met on the way to them. -/
structure Correlation (α : Type) where
  findings : List (Finding α)
  conflicts : List RuleConflict

/-- The rules that fire at a site. What is seen in no procedure is never tied together. -/
def selectionAt (registry : Registry α) (site : Site) (found : List RawMatch) : Selection α :=
  .ofCandidates site
    (candidates (if site.scope.isProcedure then registry.rulesFor site.category else []) found)

/-- The findings of one site: those of the rules that fire, then those of single matches. -/
def correlateAt [Arithmetic α] (registry : Registry α) (m : FactModel) (site : Site)
    (found : List RawMatch) : Correlation α :=
  let selection := selectionAt registry site found
  let tied := selection.fired.map fun r =>
    findingOf registry m site (some r) (found.filter fun x => r.signatures.contains x.signatureId)
  let single := (found.filter fun x => !selection.claimed.contains x.signatureId).map fun x =>
    findingOf registry m site none [x]
  ⟨tied ++ single, selection.conflicts⟩

/-- The findings of all sites. -/
def correlate [Arithmetic α] (registry : Registry α) (m : FactModel) (raw : List RawMatch) :
    Correlation α :=
  let parts := (sites raw).map fun s => correlateAt registry m s (matchesAt raw s)
  ⟨parts.flatMap (·.findings), parts.flatMap (·.conflicts)⟩

end TechniqueScan
