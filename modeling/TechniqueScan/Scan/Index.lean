import Std.Data.HashMap
import TechniqueScan.Catalogue.Signature
import TechniqueScan.Scan.RangeTable

/-!
Scanning. The signatures of a category are arranged once so that each fact finds the clauses it
hits by look-ups: names and numbers by hashing, texts by their first character, ranges by segment,
windows of instructions by their first mnemonic.
-/

namespace TechniqueScan

/-- A hit of a signature that has not been judged yet. -/
structure RawMatch where
  signatureId : String
  category : Category
  location : Location
  /-- The indices of the facts that hit. -/
  facts : List Nat
  deriving DecidableEq, Repr

/-- A hit of one clause. -/
structure ClauseHit where
  clause : ClauseRef
  location : Location
  facts : List Nat
  deriving DecidableEq, Repr

/-- A hit of a signature, by the signature's position. -/
structure Hit where
  location : Location
  signature : Nat
  facts : List Nat
  deriving DecidableEq, Repr

instance : Ord Hit :=
  ⟨compareLex (compareOn (·.location))
    (compareLex (compareOn (·.signature)) (compareOn (·.facts)))⟩

/-- A character is filed under its code point. -/
instance hashableChar : Hashable Char := ⟨fun c => c.val.toUInt64⟩

/-- Files values under keys, in the order in which they come. -/
def fileUnder {κ ν : Type} [BEq κ] [Hashable κ] (entries : List (κ × ν)) :
    Std.HashMap κ (List ν) :=
  entries.foldr (fun (k, v) m => m.insert k (v :: m.getD k [])) {}

/--
The signatures of one category, arranged for look-ups. Texts are filed by their first character and
regular expressions tried one by one, each beside its clause. A scanner may merge equal texts into the
slots of one automaton and the expressions into a set for each target, and keep the clauses in lists
beside them: the order in which clauses are hit, and how often, leaves no trace.
-/
structure SignatureIndex where
  category : Category
  /-- The identifier and the number of clauses of each signature. -/
  signatures : Array (String × Nat)
  names : Std.HashMap String (List ClauseRef)
  /-- Texts to find in strings, by their first character. -/
  needles : Std.HashMap Char (List (List Char × ClauseRef))
  symbolRegexes : List (Regex × ClauseRef)
  stringRegexes : List (Regex × ClauseRef)
  numbers : Std.HashMap UInt64 (List ClauseRef)
  ranges : RangeTable
  windows : Std.HashMap String (List (List OpcodeStep × ClauseRef))

namespace SignatureIndex

/-- All clauses of some signatures with their places. -/
def placedClauses {α : Type} (signatures : List (Signature α)) : List (Pattern × ClauseRef) :=
  signatures.zipIdx.flatMap fun (s, i) => s.clauses.zipIdx.map fun (p, k) => (p, ⟨i, k⟩)

/-- Arranges the signatures of a category. -/
def build {α : Type} (category : Category) (signatures : List (Signature α)) : SignatureIndex :=
  let clauses := placedClauses signatures
  { category
    signatures := (signatures.map fun s => (s.id, s.clauses.length)).toArray
    names := fileUnder (clauses.flatMap fun (p, place) => match p with
      | .names ns => ns.map fun n => (n, place)
      | _ => [])
    needles := fileUnder (clauses.flatMap fun (p, place) => match p with
      | .needles ts => ts.filterMap fun t => t.toList.head?.map fun c => (c, t.toList, place)
      | _ => [])
    symbolRegexes := clauses.filterMap fun (p, place) => match p with
      | .regex .symbol r => some (r, place)
      | _ => none
    stringRegexes := clauses.filterMap fun (p, place) => match p with
      | .regex .string r => some (r, place)
      | _ => none
    numbers := fileUnder (clauses.flatMap fun (p, place) => match p with
      | .numbers n => n.values.map fun v => (v, place)
      | _ => [])
    ranges := .build (clauses.filterMap fun (p, place) => match p with
      | .numbers n => n.range.map fun (low, high) => ⟨low, high, place⟩
      | _ => none)
    windows := fileUnder (clauses.filterMap fun (p, place) => match p with
      | .window steps => steps.head?.map fun s => (s.mnemonic, steps, place)
      | _ => none) }

/-! ## Hits of clauses -/

/-- A name without the underscore that some formats put in front. -/
def bareName? (name : String) : Option String :=
  match name.toList with
  | '_' :: rest => if rest.isEmpty then none else some (String.ofList rest)
  | _ => none

/-- The clauses that a name hits. -/
def symbolClauses (x : SignatureIndex) (name : String) : List ClauseRef :=
  let bare? := bareName? name
  let subject := bare?.getD name
  x.names.getD name [] ++ (bare?.map fun b => x.names.getD b []).getD []
    ++ (x.symbolRegexes.filter fun (r, _) => r.matchesIn subject).map (·.2)

/-- The clauses whose texts begin somewhere in some characters. -/
def needleClauses (x : SignatureIndex) : List Char → List ClauseRef
  | [] => []
  | c :: cs =>
    ((x.needles.getD c []).filter fun (needle, _) => needle.isPrefixOf (c :: cs)).map (·.2)
      ++ needleClauses x cs

/-- The clauses that a string hits. -/
def stringClauses (x : SignatureIndex) (value : String) : List ClauseRef :=
  x.needleClauses value.toList
    ++ (x.stringRegexes.filter fun (r, _) => r.matchesIn value).map (·.2)

/-- The clauses that a number hits. -/
def numberClauses (x : SignatureIndex) (value : UInt64) : List ClauseRef :=
  x.numbers.getD value [] ++ x.ranges.lookup value

/-- The clauses that a fact hits by itself. Instructions only hit as windows. -/
def factClauses (x : SignatureIndex) (f : Fact) : List ClauseRef :=
  match f.seen with
  | .symbol name _ => x.symbolClauses name
  | .reference r => (r.targetName.map x.symbolClauses).getD []
  | .string value => x.stringClauses value
  | .number value _ => x.numberClauses value
  | .instruction _ => []

/-- The hits of single facts, each clause counting once for a fact. -/
def factHits (x : SignatureIndex) (m : FactModel) : List ClauseHit :=
  m.facts.toList.zipIdx.flatMap fun (f, i) =>
    (ascending (x.factClauses f)).map fun c => ⟨c, f.location, [i]⟩

/-- The instruction with an index in a model. -/
def instruction? (m : FactModel) (i : Nat) : Option Instruction :=
  match m.fact? i with
  | some f => match f.seen with
    | .instruction ins => some ins
    | _ => none
  | none => none

/-- Whether instructions satisfy the steps of a window one by one. -/
def windowAccepts (m : FactModel) : List OpcodeStep → List Nat → Bool
  | [], _ => true
  | _ :: _, [] => false
  | s :: steps, i :: is => (instruction? m i).any s.accepts && windowAccepts m steps is

/-- The windows that begin with the first of some instructions of a procedure. -/
def windowsAt (x : SignatureIndex) (m : FactModel) (procedure : String) (sequence : List Nat) :
    List ClauseHit :=
  match sequence with
  | [] => []
  | i :: _ =>
    match instruction? m i with
    | none => []
    | some first =>
      ((x.windows.getD first.mnemonic []).filter fun (steps, _) =>
        windowAccepts m steps sequence).map fun (steps, c) =>
          ⟨c, ⟨.procedure procedure, ((m.fact? i).map (·.location.address)).getD 0⟩,
            sequence.take steps.length⟩

/-- The windows in the instructions of a procedure. -/
def windowsIn (x : SignatureIndex) (m : FactModel) (procedure : String) : List Nat → List ClauseHit
  | [] => []
  | i :: is => x.windowsAt m procedure (i :: is) ++ windowsIn x m procedure is

def windowHits (x : SignatureIndex) (m : FactModel) : List ClauseHit :=
  if x.windows.isEmpty then []
  else m.sequences.flatMap fun (procedure, sequence) => x.windowsIn m procedure sequence

/-- All hits of clauses. -/
def clauseHits (x : SignatureIndex) (m : FactModel) : List ClauseHit :=
  x.factHits m ++ x.windowHits m

/-! ## Hits of signatures -/

/-- The number of clauses of the signature at a position. -/
def clauseCount (x : SignatureIndex) (i : Nat) : Nat := (x.signatures[i]?.map (·.2)).getD 0

/-- The least address of some facts. -/
def leastAddress (m : FactModel) (ids : List Nat) : UInt64 :=
  match ids.filterMap fun i => (m.fact? i).map (·.location.address) with
  | [] => 0
  | a :: rest => rest.foldl (fun least b => if b < least then b else least) a

/-- The hit of a signature with several clauses in a procedure, if each of them hits there. -/
def jointHit? (m : FactModel) (signature count : Nat) (procedure : String)
    (hits : List ClauseHit) : Option Hit :=
  let here := hits.filter fun h => h.location.scope = .procedure procedure
  if (List.range count).all fun k => here.any fun h => h.clause.clause = k then
    let union := ascending (here.flatMap (·.facts))
    some ⟨⟨.procedure procedure, leastAddress m union⟩, signature, union⟩
  else none

/-- The hits of one signature: each hit of its only clause, or one for each procedure. -/
def signatureHits (m : FactModel) (signature count : Nat) (hits : List ClauseHit) : List Hit :=
  if count = 1 then hits.map fun h => ⟨h.location, signature, h.facts⟩
  else
    (ascending (hits.filterMap fun h => h.location.scope.procedureName?)).filterMap fun p =>
      jointHit? m signature count p hits

/-- The hits of all signatures, by place, then by position of the signature, then by facts. -/
def hits (x : SignatureIndex) (m : FactModel) : List Hit :=
  let bySignature := fileUnder ((x.clauseHits m).map fun h => (h.clause.signature, h))
  ascending ((List.range x.signatures.size).flatMap fun i =>
    signatureHits m i (x.clauseCount i) (bySignature.getD i []))

/-- Scans a model for the signatures of the category. -/
def scan (x : SignatureIndex) (m : FactModel) : List RawMatch :=
  (x.hits m).map fun h =>
    ⟨(x.signatures[h.signature]?.map (·.1)).getD "", x.category, h.location, h.facts⟩

end SignatureIndex

/-- Scans a model for some signatures, category by category. -/
def matchSignatures {α : Type} (m : FactModel) (signatures : List (Signature α)) : List RawMatch :=
  Category.all.flatMap fun c =>
    match signatures.filter fun s => s.category = c with
    | [] => []
    | group => (SignatureIndex.build c group).scan m

end TechniqueScan
