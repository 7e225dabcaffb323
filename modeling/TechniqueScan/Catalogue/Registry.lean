import Std.Data.HashSet
import TechniqueScan.Catalogue.Validation
import TechniqueScan.Document.Yaml.Node
import TechniqueScan.Scan.Index

/-!
The registry: all signatures and rules of a catalogue, checked as a whole and arranged for
scanning. It is built from files in their order and never changes afterwards.
-/

namespace TechniqueScan

open Document

/-- The signatures of one category, in catalogue order. -/
def signaturesOf {α : Type} (signatures : List (Signature α)) (c : Category) :
    List (Signature α) :=
  signatures.filter fun s => s.category = c

/-- Every category with its signatures arranged for scanning. -/
def indexAll {α : Type} (signatures : List (Signature α)) : List (Category × SignatureIndex) :=
  Category.all.map fun c => (c, .build c (signaturesOf signatures c))

/-- The signature at the position that is kept for an identifier. -/
def signatureAt? {α : Type} (positions : Std.HashMap String Nat) (signatures : List (Signature α))
    (id : String) : Option (Signature α) :=
  positions[id]?.bind fun i => signatures[i]?

/-- The signatures and rules of a catalogue. -/
structure Registry (α : Type) where
  signatures : List (Signature α)
  rules : List (Rule α)
  /-- The position of each identifier among the signatures. -/
  positions : Std.HashMap String Nat
  indexes : List (Category × SignatureIndex)
  /-- The arrangement is that of the signatures. -/
  indexes_eq : indexes = indexAll signatures

namespace Registry

variable {α : Type}

def size (r : Registry α) : Nat := r.signatures.length

def signaturesFor (r : Registry α) (c : Category) : List (Signature α) :=
  signaturesOf r.signatures c

def rulesFor (r : Registry α) (c : Category) : List (Rule α) :=
  r.rules.filter fun rule => rule.category = c

/-- The signature with an identifier. -/
def signature? (r : Registry α) (id : String) : Option (Signature α) :=
  signatureAt? r.positions r.signatures id

/-- Scans a model for the signatures of a category. -/
def scan (r : Registry α) (c : Category) (m : FactModel) : List RawMatch :=
  match r.indexes.lookup c with
  | some index => index.scan m
  | none => []

/-! ## Building -/

/-- What has been taken from the files so far. -/
structure Draft (α : Type) where
  signatures : List (Signature α) := []
  rules : List (Rule α) := []
  /-- The position of each identifier among the signatures. -/
  positions : Std.HashMap String Nat := {}
  /-- The identifiers of the rules. -/
  ruleIds : Std.HashSet String := {}

namespace Draft

variable [Arithmetic α]

/-- The draft with one more signature, whose identifier has to be new. -/
def addSignature (category : Category) (d : Draft α) (e : SignatureEntry α) :
    Except (CatalogueError α) (Draft α) := do
  let s ← e.validate category d.signatures.length
  if d.positions.contains s.id then .error (.duplicateId s.id)
  else .ok { d with
    signatures := d.signatures ++ [s]
    positions := d.positions.insert s.id d.signatures.length }

/-- The draft with one more rule, whose identifier has to be new among the rules. -/
def addRule (category : Category) (d : Draft α) (e : RuleEntry α) :
    Except (CatalogueError α) (Draft α) := do
  let r ← e.validate category d.rules.length
  if d.ruleIds.contains r.id then .error (.duplicateId r.id)
  else .ok { d with rules := d.rules ++ [r], ruleIds := d.ruleIds.insert r.id }

/-- A reference of a rule has to name a signature of the rule's category. -/
def checkReference (d : Draft α) (r : Rule α) (id : String) : Except (CatalogueError α) Unit :=
  match signatureAt? d.positions d.signatures id with
  | none => .error (.unknownSignature r.id id)
  | some s =>
    if s.category = r.category then .ok ()
    else .error (.foreignSignature r.id r.category id s.category)

/-- A rule has a name of its own, and its references can be resolved. -/
def checkRule (d : Draft α) (r : Rule α) : Except (CatalogueError α) Unit :=
  if d.positions.contains r.id then .error (.duplicateId r.id)
  else r.signatures.forM (checkReference d r)

/-- The registry of everything taken from the files. -/
def finish (d : Draft α) : Except (CatalogueError α) (Registry α) := do
  d.rules.forM d.checkRule
  .ok ⟨d.signatures, d.rules, d.positions, indexAll d.signatures, rfl⟩

end Draft

end Registry

namespace CatalogueFile

variable {α : Type}

/-- Only one version of the format is understood. -/
def checkVersion (source : String) (f : CatalogueFile α) : Except (CatalogueError α) Unit :=
  if f.version = CatalogueError.supportedVersion then .ok ()
  else .error (.unsupportedVersion source f.version)

/-- The category a file declares. -/
def categoryOf (source : String) (f : CatalogueFile α) : Except (CatalogueError α) Category :=
  match Category.parse? f.category with
  | some c => .ok c
  | none => .error (.unknownCategory source f.category)

/-- Reads a file of any version. -/
def ofText (source text : String) : Except (CatalogueError Float) (CatalogueFile Float) :=
  match Yaml.read? text with
  | some (.document v) =>
    match decode v with
    | .ok f => .ok f
    | .refused _ => .error (.notACatalogue source)
  | _ => .error (.notACatalogue source)

/-- Reads a file of the version that is understood. -/
def parse (source text : String) : Except (CatalogueError Float) (CatalogueFile Float) := do
  let f ← ofText source text
  f.checkVersion source
  .ok f

end CatalogueFile

namespace Registry

variable {α : Type} [Arithmetic α]

/-- The draft with everything that one more file declares. -/
def Draft.addFile (d : Draft α) (source : String) (f : CatalogueFile α) :
    Except (CatalogueError α) (Draft α) := do
  f.checkVersion source
  let category ← f.categoryOf source
  let d ← f.signatures.foldlM (addSignature category) d
  f.rules.foldlM (addRule category) d

/-- The registry of some files, each with the name of its source. -/
def ofFiles (files : List (String × CatalogueFile α)) :
    Except (CatalogueError α) (Registry α) := do
  let d ← files.foldlM (fun d (source, f) => Draft.addFile d source f) ({} : Draft α)
  d.finish

/-- The registry of some texts, each with the name of its source. -/
def ofTexts (texts : List (String × String)) : Except (CatalogueError Float) (Registry Float) := do
  let d ← texts.foldlM (fun (d : Draft Float) (source, text) => do
    d.addFile source (← CatalogueFile.ofText source text)) {}
  d.finish

end Registry

end TechniqueScan
