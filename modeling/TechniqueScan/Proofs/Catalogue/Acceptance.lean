import TechniqueScan.Proofs.Catalogue.Declared
import TechniqueScan.Proofs.Catalogue.Entries

/-!
Which catalogues are accepted: exactly the valid ones. Entries are told apart by their identifiers over
all files, and only then references are resolved, but neither the order of the checks nor that of the
files matters to whether anything is refused.
-/

namespace TechniqueScan

variable {α : Type} [Arithmetic α]

/-! ## One file -/

namespace CatalogueFile

/-- The identifiers of the signatures that a file declares. -/
def signatureIds (f : CatalogueFile α) : List String := f.signatures.map fun e => Text.trim e.id

/-- The identifiers of the rules that a file declares. -/
def ruleIds (f : CatalogueFile α) : List String := f.rules.map fun e => Text.trim e.id

/-- A file of the known version that declares valid signatures and rules of a known category. -/
structure Valid (f : CatalogueFile α) : Prop where
  version : f.version = 1
  category : ∃ c : Category, c.id = Text.trim f.category
  signatures : ∀ e ∈ f.signatures, e.Valid
  rules : ∀ e ∈ f.rules, e.Valid

variable {f : CatalogueFile α}

theorem declaredSignatures_category {s : Signature α} (member : s ∈ f.declaredSignatures) :
    s.category.id = Text.trim f.category :=
  Category.parse?_eq_some_iff.mp (mem_declaredSignatures member)

variable {c : Category} (own : c.id = Text.trim f.category)

include own

theorem declaredSignatures_ids (valid : ∀ e ∈ f.signatures, e.Valid) :
    f.declaredSignatures.map (·.id) = f.signatureIds := by
  simp only [declaredSignatures, Category.parse?_eq_some_iff.mpr own, List.map_flatMap, signatureIds]
  rw [← List.flatMap_singleton' (f.signatures.map _), List.flatMap_map]
  refine List.flatMap_congr fun e member => ?_
  obtain ⟨s, accepted⟩ := SignatureEntry.validate_accepts_iff.mpr (valid e member)
  rw [accepted, ← SignatureEntry.validate_id accepted]
  rfl

theorem declaredRules_eq (valid : ∀ e ∈ f.rules, e.Valid) :
    f.declaredRules = f.rules.map fun e => e.toRule c 0 e.referred := by
  simp only [declaredRules, Category.parse?_eq_some_iff.mpr own]
  rw [← List.flatMap_singleton' (f.rules.map _), List.flatMap_map]
  refine List.flatMap_congr fun e member => ?_
  rw [RuleEntry.validate_eq_ok_iff.mpr ⟨valid e member, rfl⟩]
  rfl

theorem exists_declaredSignature_iff (valid : ∀ e ∈ f.signatures, e.Valid) {id category : String} :
    (∃ s ∈ f.declaredSignatures, s.id = id ∧ s.category.id = category) ↔
      Text.trim f.category = category ∧ id ∈ f.signatureIds := by
  rw [← declaredSignatures_ids own valid, List.mem_map]
  constructor
  · rintro ⟨s, member, same, rfl⟩
    exact ⟨(declaredSignatures_category member).symm, s, member, same⟩
  · rintro ⟨rfl, s, member, same⟩
    exact ⟨s, member, same, declaredSignatures_category member⟩

end CatalogueFile

/-- Files that declare valid signatures and rules, told apart by their identifiers, where each rule
ties signatures of its own category. -/
structure ValidCatalogue (files : List (CatalogueFile α)) : Prop where
  each : ∀ f ∈ files, f.Valid
  signatureIds : (files.flatMap CatalogueFile.signatureIds).Nodup
  ruleIds : (files.flatMap CatalogueFile.ruleIds).Nodup
  namesApart : ∀ id ∈ files.flatMap CatalogueFile.ruleIds, id ∉ files.flatMap CatalogueFile.signatureIds
  resolved : ∀ f ∈ files, ∀ e ∈ f.rules, ∀ id ∈ e.referred,
    ∃ g ∈ files, Text.trim g.category = Text.trim f.category ∧ id ∈ g.signatureIds

namespace Registry

/-! ## Adding files -/

namespace Draft

theorem foldlM_addSignature_accepts_iff {c : Category} {d : Draft α} (sound : d.Sound)
    {entries : List (SignatureEntry α)} :
    (∃ d', entries.foldlM (addSignature c) d = .ok d') ↔
      (∀ e ∈ entries, e.Valid ∧ Text.trim e.id ∉ d.signatures.map (·.id)) ∧
        (entries.map fun e => Text.trim e.id).Nodup := by
  rw [List.Nodup, List.pairwise_map]
  refine foldlM_accepts_iff Sound (fun e : SignatureEntry α => e.Valid)
    (fun (d : Draft α) e => Text.trim e.id ∉ d.signatures.map (·.id)) _
    (fun _ _ _ => Sound.addSignature) (fun d e sound => ?_) ?_ sound
  · rw [← SignatureEntry.validate_accepts_iff (c := c)]
    simp only [addSignature_ok_iff, sound.positioned.mem_iff]
    constructor
    · rintro ⟨_, s, accepted, fresh, _⟩
      exact ⟨⟨s, accepted⟩, SignatureEntry.validate_id accepted ▸ fresh⟩
    · rintro ⟨⟨s, accepted⟩, fresh⟩
      exact ⟨_, s, accepted, SignatureEntry.validate_id accepted ▸ fresh, rfl⟩
  · intro d e d' _ added e'
    obtain ⟨s, accepted, _, rfl⟩ := addSignature_ok_iff.mp added
    simp [SignatureEntry.validate_id accepted, eq_comm]

theorem foldlM_addRule_accepts_iff {c : Category} {d : Draft α} (sound : d.Sound)
    {entries : List (RuleEntry α)} :
    (∃ d', entries.foldlM (addRule c) d = .ok d') ↔
      (∀ e ∈ entries, e.Valid ∧ Text.trim e.id ∉ d.rules.map (·.id)) ∧
        (entries.map fun e => Text.trim e.id).Nodup := by
  rw [List.Nodup, List.pairwise_map]
  refine foldlM_accepts_iff Sound (fun e : RuleEntry α => e.Valid)
    (fun (d : Draft α) e => Text.trim e.id ∉ d.rules.map (·.id)) _
    (fun _ _ _ => Sound.addRule) (fun d e sound => ?_) ?_ sound
  · simp only [addRule_ok_iff, RuleEntry.validate_eq_ok_iff, sound.mem_ruleIds]
    constructor
    · rintro ⟨_, _, ⟨valid, rfl⟩, fresh, _⟩
      exact ⟨valid, fresh⟩
    · rintro ⟨valid, fresh⟩
      exact ⟨_, _, ⟨valid, rfl⟩, fresh, rfl⟩
  · intro d e d' _ added e'
    obtain ⟨r, accepted, _, rfl⟩ := addRule_ok_iff.mp added
    obtain ⟨_, rfl⟩ := RuleEntry.validate_eq_ok_iff.mp accepted
    simp [RuleEntry.toRule, eq_comm]

/-- A file whose identifiers differ from those that are taken. -/
@[mk_iff]
structure Fresh (d : Draft α) (f : CatalogueFile α) : Prop where
  signatureIds : ∀ id ∈ f.signatureIds, id ∉ d.signatures.map (·.id)
  ruleIds : ∀ id ∈ f.ruleIds, id ∉ d.rules.map (·.id)

theorem addFile_accepts_iff {d : Draft α} (sound : d.Sound) {source : String} {f : CatalogueFile α} :
    (∃ d', d.addFile source f = .ok d') ↔
      (f.Valid ∧ f.signatureIds.Nodup ∧ f.ruleIds.Nodup) ∧ d.Fresh f := by
  simp only [addFile_ok_iff, Category.parse?_eq_some_iff]
  constructor
  · rintro ⟨d', version, c, own, next, signatures, rules⟩
    have between := sound.foldlM_addSignature signatures
    obtain ⟨each, once⟩ := (foldlM_addSignature_accepts_iff sound).mp ⟨next, signatures⟩
    obtain ⟨each', once'⟩ := (foldlM_addRule_accepts_iff between).mp ⟨d', rules⟩
    rw [foldlM_addSignature_rules signatures] at each'
    refine ⟨⟨⟨version, ⟨c, own⟩, fun e member => (each e member).1, fun e member => (each' e member).1⟩,
      once, once'⟩, ?_, ?_⟩
    · exact List.forall_mem_map.mpr fun e member => (each e member).2
    · exact List.forall_mem_map.mpr fun e member => (each' e member).2
  · rintro ⟨⟨⟨version, ⟨c, own⟩, signatures, rules⟩, once, once'⟩, fresh, fresh'⟩
    obtain ⟨next, added⟩ := (foldlM_addSignature_accepts_iff sound).mpr
      ⟨fun e member => ⟨signatures e member, List.forall_mem_map.mp fresh e member⟩, once⟩
    have fresh' : ∀ e ∈ f.rules, e.Valid ∧ Text.trim e.id ∉ next.rules.map (·.id) := by
      rw [foldlM_addSignature_rules added]
      exact fun e member => ⟨rules e member, List.forall_mem_map.mp fresh' e member⟩
    obtain ⟨d', added'⟩ :=
      (foldlM_addRule_accepts_iff (sound.foldlM_addSignature added)).mpr ⟨fresh', once'⟩
    exact ⟨d', version, c, own, next, added, added'⟩

/-- What is taken after a file has been added is what was taken and what the file declares. -/
theorem addFile_ids {d d' : Draft α} (sound : d.Sound) {source : String} {f : CatalogueFile α}
    (added : d.addFile source f = .ok d') :
    d'.signatures.map (·.id) = d.signatures.map (·.id) ++ f.signatureIds ∧
      d'.rules.map (·.id) = d.rules.map (·.id) ++ f.ruleIds := by
  obtain ⟨⟨⟨_, ⟨c, own⟩, signatures, rules⟩, _⟩, _⟩ := (addFile_accepts_iff sound).mp ⟨d', added⟩
  obtain ⟨addsSignatures, addsRules⟩ := addFile_adds added
  constructor
  · have ids := congrArg (List.map (·.id)) addsSignatures
    rw [List.map_append, CatalogueFile.declaredSignatures_ids own signatures, List.map_map,
      List.map_map] at ids
    exact ids
  · have ids := congrArg (List.map (·.id)) addsRules
    rw [List.map_append, CatalogueFile.declaredRules_eq own rules, List.map_map, List.map_map,
      List.map_map] at ids
    exact ids

theorem foldlM_addFile_accepts_iff {files : List (String × CatalogueFile α)} :
    (∃ d, files.foldlM (fun (d : Draft α) f => d.addFile f.1 f.2) {} = .ok d) ↔
      (∀ f ∈ files.map (·.2), f.Valid) ∧
        ((files.map (·.2)).flatMap CatalogueFile.signatureIds).Nodup ∧
        ((files.map (·.2)).flatMap CatalogueFile.ruleIds).Nodup := by
  refine (foldlM_accepts_iff Sound
    (fun f : String × CatalogueFile α => f.2.Valid ∧ f.2.signatureIds.Nodup ∧ f.2.ruleIds.Nodup)
    (fun (d : Draft α) f => d.Fresh f.2)
    (fun f g => f.2.signatureIds.Disjoint g.2.signatureIds ∧ f.2.ruleIds.Disjoint g.2.ruleIds)
    (fun _ _ _ => Sound.addFile) (fun d f sound => addFile_accepts_iff sound) ?_ sound_empty).trans ?_
  · intro d f d' sound added g
    obtain ⟨signatures, rules⟩ := addFile_ids sound added
    rw [fresh_iff, fresh_iff, signatures, rules]
    simp only [List.mem_append, not_or, forall_and, List.Disjoint, imp_not_comm]
    exact and_and_and_comm
  · have fresh (f : String × CatalogueFile α) : Fresh {} f.2 := ⟨by simp, by simp⟩
    simp only [fresh, and_true, List.pairwise_and_iff, List.nodup_flatMap, List.forall_mem_map,
      List.pairwise_map, forall_and]
    constructor
    · rintro ⟨⟨valid, once, once'⟩, apart, apart'⟩
      exact ⟨valid, ⟨once, apart⟩, once', apart'⟩
    · rintro ⟨valid, ⟨once, apart⟩, once', apart'⟩
      exact ⟨⟨valid, once, once'⟩, apart, apart'⟩

/-! ## Resolving references -/

theorem finish_accepts_iff {d : Draft α} (sound : d.Sound) :
    (∃ r, d.finish = .ok r) ↔ ∀ rule ∈ d.rules, rule.id ∉ d.signatures.map (·.id) ∧
      ∀ id ∈ rule.signatures, ∃ s ∈ d.signatures, s.id = id ∧ s.category.id = rule.category.id := by
  simp only [finish_ok_iff, exists_and_left, exists_eq', and_true, sound.checkRule_ok_iff,
    Category.id_injective.eq_iff]

section

variable {files : List (String × CatalogueFile α)} {d : Draft α}
  (added : files.foldlM (fun (d : Draft α) f => d.addFile f.1 f.2) {} = .ok d)

include added

theorem foldlM_addFile_valid : ∀ f ∈ files, f.2.Valid :=
  List.forall_mem_map.mp (foldlM_addFile_accepts_iff.mp ⟨d, added⟩).1

theorem foldlM_addFile_ids :
    d.signatures.map (·.id) = (files.map (·.2)).flatMap CatalogueFile.signatureIds := by
  have ids := congrArg (List.map (·.id)) (foldlM_addFile_adds added).1
  rw [List.map_map, List.map_flatMap] at ids
  rw [List.flatMap_map]
  refine ids.trans (List.flatMap_congr fun f listed => ?_)
  obtain ⟨_, ⟨_, own⟩, signatures, _⟩ := foldlM_addFile_valid added f listed
  exact CatalogueFile.declaredSignatures_ids own signatures

theorem exists_signature_iff {id category : String} :
    (∃ s ∈ d.signatures, s.id = id ∧ s.category.id = category) ↔
      ∃ f ∈ files.map (·.2), Text.trim f.category = category ∧ id ∈ f.signatureIds := by
  have unplaced : (∃ s ∈ d.signatures, s.id = id ∧ s.category.id = category) ↔
      ∃ s ∈ d.signatures.map Signature.unplaced, s.id = id ∧ s.category.id = category := by
    simp [Signature.unplaced]
  have each : ∀ f ∈ files, (∃ s ∈ f.2.declaredSignatures, s.id = id ∧ s.category.id = category) ↔
      Text.trim f.2.category = category ∧ id ∈ f.2.signatureIds := by
    intro f listed
    obtain ⟨_, ⟨_, own⟩, signatures, _⟩ := foldlM_addFile_valid added f listed
    exact CatalogueFile.exists_declaredSignature_iff own signatures
  rw [unplaced, (foldlM_addFile_adds added).1]
  constructor
  · rintro ⟨s, member, same⟩
    obtain ⟨f, listed, inside⟩ := List.mem_flatMap.mp member
    exact ⟨f.2, List.mem_map_of_mem listed, (each f listed).mp ⟨s, inside, same⟩⟩
  · rintro ⟨_, member, named⟩
    obtain ⟨f, listed, rfl⟩ := List.mem_map.mp member
    obtain ⟨s, inside, same⟩ := (each f listed).mpr named
    exact ⟨s, List.mem_flatMap.mpr ⟨f, listed, inside⟩, same⟩

theorem forall_rule_iff {P : String → String → List String → Prop} :
    (∀ r ∈ d.rules, P r.id r.category.id r.signatures) ↔
      ∀ f ∈ files.map (·.2), ∀ e ∈ f.rules, P (Text.trim e.id) (Text.trim f.category) e.referred := by
  have unplaced : (∀ r ∈ d.rules, P r.id r.category.id r.signatures) ↔
      ∀ r ∈ d.rules.map Rule.unplaced, P r.id r.category.id r.signatures := by
    simp [Rule.unplaced]
  rw [unplaced, (foldlM_addFile_adds added).2, List.forall_mem_flatMap, List.forall_mem_map]
  refine forall₂_congr fun f listed => ?_
  obtain ⟨_, ⟨c, own⟩, _, rules⟩ := foldlM_addFile_valid added f listed
  rw [CatalogueFile.declaredRules_eq own rules, List.forall_mem_map, ← own]
  rfl

/-- What has been taken from files makes a registry exactly if their rules have names of their own and
tie signatures of their own categories. -/
theorem finish_declared_iff :
    (∃ r, d.finish = .ok r) ↔
      (∀ id ∈ (files.map (·.2)).flatMap CatalogueFile.ruleIds,
        id ∉ (files.map (·.2)).flatMap CatalogueFile.signatureIds) ∧
      ∀ f ∈ files.map (·.2), ∀ e ∈ f.rules, ∀ id ∈ e.referred,
        ∃ g ∈ files.map (·.2), Text.trim g.category = Text.trim f.category ∧ id ∈ g.signatureIds := by
  rw [← foldlM_addFile_ids added, finish_accepts_iff (sound_of_files added), forall₂_and,
    List.forall_mem_flatMap]
  simp only [exists_signature_iff added]
  refine and_congr ?_ ?_
  · rw [forall_rule_iff added (P := fun id _ _ => id ∉ d.signatures.map (·.id))]
    simp only [CatalogueFile.ruleIds, List.forall_mem_map]
  · exact forall_rule_iff added (P := fun _ category references => ∀ id ∈ references,
      ∃ g ∈ files.map (·.2), Text.trim g.category = category ∧ id ∈ g.signatureIds)

end

end Draft

/-! ## Whole catalogues -/

/-- Files are accepted exactly if they are a valid catalogue. -/
theorem ofFiles_accepts_iff {files : List (String × CatalogueFile α)} :
    (∃ r, ofFiles files = .ok r) ↔ ValidCatalogue (files.map (·.2)) := by
  have built : (∃ r, ofFiles files = .ok r) ↔
      ∃ d, files.foldlM (fun (d : Draft α) f => d.addFile f.1 f.2) {} = .ok d ∧ ∃ r, d.finish = .ok r := by
    simp only [ofFiles, bind_ok_iff]
    rw [exists_comm]
    simp only [exists_and_left]
  rw [built]
  constructor
  · rintro ⟨d, added, finishes⟩
    obtain ⟨each, signatureIds, ruleIds⟩ := Draft.foldlM_addFile_accepts_iff.mp ⟨d, added⟩
    obtain ⟨namesApart, resolved⟩ := (Draft.finish_declared_iff added).mp finishes
    exact ⟨each, signatureIds, ruleIds, namesApart, resolved⟩
  · rintro ⟨each, signatureIds, ruleIds, namesApart, resolved⟩
    obtain ⟨d, added⟩ := Draft.foldlM_addFile_accepts_iff.mpr ⟨each, signatureIds, ruleIds⟩
    exact ⟨d, added, (Draft.finish_declared_iff added).mpr ⟨namesApart, resolved⟩⟩

theorem forall₂_ofText_iff {texts : List (String × String)} {files : List (CatalogueFile Float)} :
    List.Forall₂ (fun t f => CatalogueFile.ofText t.1 t.2 = .ok f) texts files ↔
      ∃ sourced, List.Forall₂ (fun (t : String × String) (f : String × CatalogueFile Float) =>
        f.1 = t.1 ∧ CatalogueFile.ofText t.1 t.2 = .ok f.2) texts sourced ∧ sourced.map (·.2) = files := by
  constructor
  · intro each
    induction each with
    | nil => exact ⟨[], .nil, rfl⟩
    | @cons t f _ _ read _ ih =>
      obtain ⟨sourced, each, rfl⟩ := ih
      exact ⟨(t.1, f) :: sourced, .cons ⟨rfl, read⟩ each, rfl⟩
  · rintro ⟨sourced, each, rfl⟩
    exact List.forall₂_map_right_iff.mpr (each.imp fun _ _ read => read.2)

theorem exists_ofTexts {texts : List (String × String)} {files : List (CatalogueFile Float)}
    (each : List.Forall₂ (fun t f => CatalogueFile.ofText t.1 t.2 = .ok f) texts files)
    (valid : ValidCatalogue files) : ∃ r, ofTexts texts = .ok r := by
  obtain ⟨sourced, read, rfl⟩ := forall₂_ofText_iff.mp each
  obtain ⟨r, built⟩ := ofFiles_accepts_iff.mpr valid
  exact ⟨r, ofTexts_ok_iff.mpr ⟨sourced, read, built⟩⟩

/-- Texts are accepted exactly if each can be read and what they are read as is a valid catalogue. -/
theorem ofTexts_accepts_iff {texts : List (String × String)} :
    (∃ r, ofTexts texts = .ok r) ↔
      ∃ files, List.Forall₂ (fun t f => CatalogueFile.ofText t.1 t.2 = .ok f) texts files ∧
        ValidCatalogue files := by
  constructor
  · rintro ⟨r, accepted⟩
    obtain ⟨sourced, each, built⟩ := ofTexts_ok_iff.mp accepted
    exact ⟨_, forall₂_ofText_iff.mpr ⟨sourced, each, rfl⟩, ofFiles_accepts_iff.mp ⟨r, built⟩⟩
  · rintro ⟨files, each, valid⟩
    exact exists_ofTexts each valid

end Registry

end TechniqueScan
