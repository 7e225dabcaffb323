import TechniqueScan.Proofs.Catalogue.Registry

/-!
What files declare for a category. Up to positions, the signatures and rules that an accepted
registry holds for a category are those that the files of that category declare, in their order.
-/

namespace TechniqueScan

open Document

variable {α : Type}

/-- A signature whatever its position. -/
def Signature.unplaced (s : Signature α) : Signature α := { s with order := 0 }

/-- A rule whatever its position. -/
def Rule.unplaced (r : Rule α) : Rule α := { r with order := 0 }

/-- Rules that differ in their positions at most agree in all that a finding tells of them. -/
theorem Rule.eq_of_unplaced_eq {r r' : Rule α} (same : r.unplaced = r'.unplaced) :
    r.id = r'.id ∧ r.description = r'.description ∧ r.signatures = r'.signatures ∧
      r.boost = r'.boost := by
  cases r
  cases r'
  simp only [unplaced, Rule.mk.injEq] at same
  obtain ⟨id, _, description, signatures, boost, _⟩ := same
  exact ⟨id, description, signatures, boost⟩

variable [Arithmetic α]

theorem SignatureEntry.validate_unplaced {e : SignatureEntry α} {c : Category} {order : Nat}
    {s : Signature α} (accepted : e.validate c order = .ok s) : e.validate c 0 = .ok s.unplaced := by
  obtain ⟨named, weighs, filled, clauses, each, rfl⟩ := SignatureEntry.validate_ok_iff.mp accepted
  exact SignatureEntry.validate_ok_iff.mpr ⟨named, weighs, filled, clauses, each, rfl⟩

theorem RuleEntry.validate_unplaced {e : RuleEntry α} {c : Category} {order : Nat} {r : Rule α}
    (accepted : e.validate c order = .ok r) : e.validate c 0 = .ok r.unplaced := by
  obtain ⟨named, ids, listed, several, boosts, rfl⟩ := RuleEntry.validate_ok_iff.mp accepted
  exact RuleEntry.validate_ok_iff.mpr ⟨named, ids, listed, several, boosts, rfl⟩

namespace CatalogueFile

/-- The signatures that a file declares. -/
def declaredSignatures (f : CatalogueFile α) : List (Signature α) :=
  match Category.parse? f.category with
  | some c => f.signatures.flatMap fun e => (e.validate c 0).toOption.toList
  | none => []

/-- The rules that a file declares. -/
def declaredRules (f : CatalogueFile α) : List (Rule α) :=
  match Category.parse? f.category with
  | some c => f.rules.flatMap fun e => (e.validate c 0).toOption.toList
  | none => []

theorem mem_declaredSignatures {f : CatalogueFile α} {s : Signature α}
    (member : s ∈ f.declaredSignatures) : Category.parse? f.category = some s.category := by
  unfold declaredSignatures at member
  split at member
  · rename_i c declared
    obtain ⟨e, _, inside⟩ := List.mem_flatMap.mp member
    obtain ⟨_, _, _, _, _, rfl⟩ := SignatureEntry.validate_ok_iff.mp
      (toOption_eq_some_iff.mp (Option.mem_toList.mp inside))
    exact declared
  · cases member

theorem mem_declaredRules {f : CatalogueFile α} {r : Rule α} (member : r ∈ f.declaredRules) :
    Category.parse? f.category = some r.category := by
  unfold declaredRules at member
  split at member
  · rename_i c declared
    obtain ⟨e, _, inside⟩ := List.mem_flatMap.mp member
    obtain ⟨_, _, _, _, _, rfl⟩ := RuleEntry.validate_ok_iff.mp
      (toOption_eq_some_iff.mp (Option.mem_toList.mp inside))
    exact declared
  · cases member

end CatalogueFile

namespace Registry

namespace Draft

theorem foldlM_addSignature_rules {c : Category} {entries : List (SignatureEntry α)} {d d' : Draft α}
    (added : entries.foldlM (addSignature c) d = .ok d') : d'.rules = d.rules := by
  refine foldlM_keeps (fun d' : Draft α => d'.rules = d.rules) ?_ rfl added
  intro d₁ e d₂ same stepped
  obtain ⟨s, _, _, rfl⟩ := addSignature_ok_iff.mp stepped
  exact same

theorem foldlM_addRule_signatures {c : Category} {entries : List (RuleEntry α)} {d d' : Draft α}
    (added : entries.foldlM (addRule c) d = .ok d') : d'.signatures = d.signatures := by
  refine foldlM_keeps (fun d' : Draft α => d'.signatures = d.signatures) ?_ rfl added
  intro d₁ e d₂ same stepped
  obtain ⟨r, _, _, rfl⟩ := addRule_ok_iff.mp stepped
  exact same

/-- A file adds what it declares, behind what there is. -/
theorem addFile_adds {d d' : Draft α} {source : String} {f : CatalogueFile α}
    (added : d.addFile source f = .ok d') :
    d'.signatures.map Signature.unplaced =
        d.signatures.map Signature.unplaced ++ f.declaredSignatures ∧
      d'.rules.map Rule.unplaced = d.rules.map Rule.unplaced ++ f.declaredRules := by
  obtain ⟨_, c, declared, next, signatures, rules⟩ := addFile_ok_iff.mp added
  constructor
  · have appended := foldlM_appends (fun d : Draft α => d.signatures.map Signature.unplaced)
      (fun e => (e.validate c 0).toOption.toList) ?_ signatures
    · rw [foldlM_addRule_signatures rules, appended]
      simp only [CatalogueFile.declaredSignatures, declared]
    · intro d e d' stepped
      obtain ⟨s, accepted, _, rfl⟩ := addSignature_ok_iff.mp stepped
      rw [SignatureEntry.validate_unplaced accepted, List.map_append]
      rfl
  · have appended := foldlM_appends (fun d : Draft α => d.rules.map Rule.unplaced)
      (fun e => (e.validate c 0).toOption.toList) ?_ rules
    · rw [appended, foldlM_addSignature_rules signatures]
      simp only [CatalogueFile.declaredRules, declared]
    · intro d e d' stepped
      obtain ⟨r, accepted, _, rfl⟩ := addRule_ok_iff.mp stepped
      rw [RuleEntry.validate_unplaced accepted, List.map_append]
      rfl

/-- In the end, what all files declare has been added, in their order. -/
theorem foldlM_addFile_adds {files : List (String × CatalogueFile α)} {d : Draft α}
    (added : files.foldlM (fun (d : Draft α) f => d.addFile f.1 f.2) {} = .ok d) :
    d.signatures.map Signature.unplaced = files.flatMap (fun f => f.2.declaredSignatures) ∧
      d.rules.map Rule.unplaced = files.flatMap fun f => f.2.declaredRules := by
  constructor
  · exact foldlM_appends (fun d : Draft α => d.signatures.map Signature.unplaced)
      (fun f : String × CatalogueFile α => f.2.declaredSignatures)
      (fun _ _ _ stepped => (addFile_adds stepped).1) added
  · exact foldlM_appends (fun d : Draft α => d.rules.map Rule.unplaced)
      (fun f : String × CatalogueFile α => f.2.declaredRules)
      (fun _ _ _ stepped => (addFile_adds stepped).2) added

end Draft

/-- The files of a category. -/
def filesOf (c : Category) (files : List (String × CatalogueFile α)) : List (CatalogueFile α) :=
  (files.map (·.2)).filter fun f => Category.parse? f.category = some c

omit [Arithmetic α] in
/-- Where files declare items of their own categories, the items of a category are those that the
files of that category declare. -/
theorem filter_declared {β : Type} (category : β → Category) {declared : CatalogueFile α → List β}
    (own : ∀ f, ∀ b ∈ declared f, Category.parse? f.category = some (category b))
    (files : List (String × CatalogueFile α)) (c : Category) :
    (files.flatMap fun f => declared f.2).filter (fun b => category b = c) =
      (filesOf c files).flatMap declared := by
  have kind : ∀ f ∈ files.map (·.2), ∀ b ∈ declared f,
      decide (category b = c) = decide (Category.parse? f.category = some c) := by
    intro f _ b member
    rw [own f b member, decide_eq_decide, Option.some.injEq]
  rw [filesOf, ← flatMap_filter_kind kind, List.flatMap_map]

/-- What a registry holds for a category, whatever the positions, is what the files of that category
declare. -/
theorem ofFiles_holds {files : List (String × CatalogueFile α)} {r : Registry α}
    (accepted : ofFiles files = .ok r) (c : Category) :
    (r.signaturesFor c).map Signature.unplaced =
        (filesOf c files).flatMap CatalogueFile.declaredSignatures ∧
      (r.rulesFor c).map Rule.unplaced = (filesOf c files).flatMap CatalogueFile.declaredRules := by
  obtain ⟨d, added, finished⟩ := bind_ok_iff.mp accepted
  obtain ⟨_, rfl⟩ := Draft.finish_ok_iff.mp finished
  obtain ⟨signatures, rules⟩ := Draft.foldlM_addFile_adds added
  constructor
  · rw [← filter_declared Signature.category (fun _ _ => CatalogueFile.mem_declaredSignatures),
      ← signatures, List.filter_map]
    rfl
  · rw [← filter_declared Rule.category (fun _ _ => CatalogueFile.mem_declaredRules), ← rules,
      List.filter_map]
    rfl

/-! ## Texts -/

/-- Whether a text, which comes with the name of its source, declares a category. -/
def declares (c : Category) (t : String × String) : Bool :=
  match CatalogueFile.ofText t.1 t.2 with
  | .ok f => Category.parse? f.category = some c
  | .error _ => false

/-- The texts that declare a category, in their order. -/
def textsOf (c : Category) (texts : List (String × String)) : List String :=
  (texts.filter (declares c)).map (·.2)

/-- A text is read as what the document in it is decoded to. -/
theorem ofText_ok_iff {source text : String} {f : CatalogueFile Float} :
    CatalogueFile.ofText source text = .ok f ↔
      ∃ v, Yaml.read? text = some (.document v) ∧ CatalogueFile.decode v = .ok f := by
  unfold CatalogueFile.ofText
  rcases Yaml.read? text with _ | _ | v
  · simp
  · simp
  · cases decoded : CatalogueFile.decode v <;> simp [decoded]

/-- What a text is read as does not depend on its source. -/
theorem ofText_source {source text : String} {f : CatalogueFile Float}
    (read : CatalogueFile.ofText source text = .ok f) (other : String) :
    CatalogueFile.ofText other text = .ok f := by
  rw [ofText_ok_iff] at read ⊢
  exact read

/-- The files of a category are what its texts are read as. -/
theorem filesOf_eq {texts : List (String × String)} {files : List (String × CatalogueFile Float)}
    (each : List.Forall₂ (fun (t : String × String) f =>
      f.1 = t.1 ∧ CatalogueFile.ofText t.1 t.2 = .ok f.2) texts files) (c : Category) :
    filesOf c files =
      (textsOf c texts).filterMap fun text => (CatalogueFile.ofText "" text).toOption := by
  induction each with
  | nil => rfl
  | @cons t f texts files first _ ih =>
    have read : (CatalogueFile.ofText "" t.2).toOption = some f.2 :=
      toOption_eq_some_iff.mpr (ofText_source first.2 "")
    have declared : declares c t = decide (Category.parse? f.2.category = some c) := by
      simp only [declares, first.2]
    rw [filesOf, textsOf] at ih ⊢
    rw [List.map_cons, List.filter_cons, List.filter_cons, declared]
    by_cases own : Category.parse? f.2.category = some c
    · rw [decide_eq_true own, if_pos rfl, if_pos rfl, List.map_cons, List.filterMap_cons, read, ih]
    · rw [decide_eq_false own, if_neg Bool.false_ne_true, if_neg Bool.false_ne_true, ih]

/-- What a registry holds for a category is what the texts of that category are read as. -/
theorem ofTexts_holds {texts : List (String × String)} {r : Registry Float}
    (accepted : ofTexts texts = .ok r) (c : Category) :
    (r.signaturesFor c).map Signature.unplaced =
        ((textsOf c texts).filterMap fun text => (CatalogueFile.ofText "" text).toOption).flatMap
          CatalogueFile.declaredSignatures ∧
      (r.rulesFor c).map Rule.unplaced =
        ((textsOf c texts).filterMap fun text => (CatalogueFile.ofText "" text).toOption).flatMap
          CatalogueFile.declaredRules := by
  obtain ⟨files, read, built⟩ := ofTexts_ok_iff.mp accepted
  rw [← filesOf_eq read]
  exact ofFiles_holds built c

/-- Two registries that hold the same signatures and the same rules for a category, each in the same
order. -/
structure SameIn (c : Category) (left right : Registry α) : Prop where
  signatures : (left.signaturesFor c).map Signature.unplaced =
    (right.signaturesFor c).map Signature.unplaced
  rules : (left.rulesFor c).map Rule.unplaced = (right.rulesFor c).map Rule.unplaced

theorem sameIn_of_textsOf {c : Category} {texts others : List (String × String)}
    {left right : Registry Float} (acceptedLeft : ofTexts texts = .ok left)
    (acceptedRight : ofTexts others = .ok right) (same : textsOf c texts = textsOf c others) :
    SameIn c left right := by
  obtain ⟨signatures, rules⟩ := ofTexts_holds acceptedLeft c
  obtain ⟨signatures', rules'⟩ := ofTexts_holds acceptedRight c
  rw [same] at signatures rules
  exact ⟨signatures.trans signatures'.symm, rules.trans rules'.symm⟩

end Registry

end TechniqueScan
