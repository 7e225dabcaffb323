import Std.Data.HashMap.Lemmas
import Std.Data.HashSet.Lemmas
import TechniqueScan.Catalogue.Registry
import TechniqueScan.Proofs.Catalogue.Validation
import TechniqueScan.Proofs.Grouping

/-!
What acceptance promises. Every signature and rule that a catalogue adds keeps identifiers apart,
positions counted and the position of each identifier filed, and in the end every rule ties signatures
of its own category.
-/

namespace TechniqueScan

variable {α : Type}

/-! ## Positions of identifiers -/

theorem getElem?_concat_eq_some_iff {β : Type} {items : List β} {b c : β} {i : Nat} :
    (items ++ [b])[i]? = some c ↔ items[i]? = some c ∨ i = items.length ∧ b = c := by
  rcases Nat.lt_trichotomy i items.length with inside | last | outside
  · rw [List.getElem?_append_left inside]
    simp [inside.ne]
  · subst last
    simp
  · have beyond : (items ++ [b]).length ≤ i := by
      rw [List.length_append, List.length_singleton]
      omega
    rw [List.getElem?_eq_none beyond, List.getElem?_eq_none outside.le]
    simp [outside.ne']

/-- Whether exactly the identifiers of some signatures are filed, each at the position of its signature. -/
def Positioned (signatures : List (Signature α)) (positions : Std.HashMap String Nat) : Prop :=
  ∀ id i, positions[id]? = some i ↔ ∃ s : Signature α, signatures[i]? = some s ∧ s.id = id

namespace Positioned

theorem nothing : Positioned ([] : List (Signature α)) {} := by
  intro id i
  simp

variable {signatures : List (Signature α)} {positions : Std.HashMap String Nat}
  (positioned : Positioned signatures positions)

include positioned

theorem mem_iff (id : String) : id ∈ positions ↔ id ∈ signatures.map (·.id) := by
  rw [Std.HashMap.mem_iff_isSome_getElem?, Option.isSome_iff_exists, List.mem_map]
  constructor
  · rintro ⟨i, filed⟩
    obtain ⟨s, placed, same⟩ := (positioned id i).mp filed
    exact ⟨s, List.mem_of_getElem? placed, same⟩
  · rintro ⟨s, listed, same⟩
    obtain ⟨i, placed⟩ := List.mem_iff_getElem?.mp listed
    exact ⟨i, (positioned id i).mpr ⟨s, placed, same⟩⟩

/-- A signature with a new identifier is filed at the end. -/
theorem concat {s : Signature α} (fresh : s.id ∉ positions) :
    Positioned (signatures ++ [s]) (positions.insert s.id signatures.length) := by
  intro id i
  simp only [getElem?_concat_eq_some_iff]
  rw [Std.HashMap.getElem?_insert]
  by_cases own : s.id = id
  · subst own
    have elsewhere (t : Signature α) (placed : signatures[i]? = some t) : t.id ≠ s.id := by
      intro same
      apply fresh
      rw [positioned.mem_iff, ← same]
      exact List.mem_map_of_mem (List.mem_of_getElem? placed)
    rw [if_pos (beq_self_eq_true s.id), Option.some_inj]
    constructor
    · intro last
      exact ⟨s, .inr ⟨last.symm, rfl⟩, rfl⟩
    · rintro ⟨t, placed | ⟨last, _⟩, same⟩
      · exact (elsewhere t placed same).elim
      · exact last.symm
  · rw [if_neg (by simpa using own), positioned id i]
    constructor
    · rintro ⟨t, placed, same⟩
      exact ⟨t, .inl placed, same⟩
    · rintro ⟨t, placed | ⟨_, rfl⟩, same⟩
      · exact ⟨t, placed, same⟩
      · exact (own same).elim

/-- What is found for an identifier is the signature that carries it. -/
theorem signatureAt?_eq_some_iff {id : String} {s : Signature α} :
    signatureAt? positions signatures id = some s ↔ s ∈ signatures ∧ s.id = id := by
  rw [signatureAt?, Option.bind_eq_some_iff]
  constructor
  · rintro ⟨i, filed, placed⟩
    obtain ⟨t, placed', same⟩ := (positioned id i).mp filed
    rw [placed] at placed'
    obtain rfl := Option.some.inj placed'
    exact ⟨List.mem_of_getElem? placed, same⟩
  · rintro ⟨listed, same⟩
    obtain ⟨i, placed⟩ := List.mem_iff_getElem?.mp listed
    exact ⟨i, (positioned id i).mpr ⟨s, placed, same⟩, placed⟩

end Positioned

/-! ## Adding entries -/

/-- Signatures and rules as files add them: checked one by one, told apart, and counted. -/
structure Catalogued [Arithmetic α] (signatures : List (Signature α)) (rules : List (Rule α)) : Prop where
  validated : ∀ s ∈ signatures, s.Validated
  ids : (signatures.map (·.id)).Nodup
  orders : signatures.map (·.order) = List.range signatures.length
  ruleValidated : ∀ r ∈ rules, r.Validated
  ruleIds : (rules.map (·.id)).Nodup
  ruleOrders : rules.map (·.order) = List.range rules.length

namespace Registry

namespace Draft

variable [Arithmetic α]

theorem addSignature_ok_iff {category : Category} {d d' : Draft α} {e : SignatureEntry α} :
    d.addSignature category e = .ok d' ↔
      ∃ s, e.validate category d.signatures.length = .ok s ∧ s.id ∉ d.positions ∧
        { d with
          signatures := d.signatures ++ [s]
          positions := d.positions.insert s.id d.signatures.length } = d' := by
  simp only [addSignature, bind_ok_iff, ite_error_ok_iff, ← Std.HashMap.mem_iff_contains, Except.ok.injEq]

theorem addRule_ok_iff {category : Category} {d d' : Draft α} {e : RuleEntry α} :
    d.addRule category e = .ok d' ↔
      ∃ r, e.validate category d.rules.length = .ok r ∧ r.id ∉ d.ruleIds ∧
        { d with rules := d.rules ++ [r], ruleIds := d.ruleIds.insert r.id } = d' := by
  simp only [addRule, bind_ok_iff, ite_error_ok_iff, ← Std.HashSet.mem_iff_contains, Except.ok.injEq]

theorem addFile_ok_iff {d d' : Draft α} {source : String} {f : CatalogueFile α} :
    d.addFile source f = .ok d' ↔
      f.version = CatalogueError.supportedVersion ∧ ∃ c, Category.parse? f.category = some c ∧
        ∃ next, f.signatures.foldlM (addSignature c) d = .ok next ∧
          f.rules.foldlM (addRule c) next = .ok d' := by
  have declared (c : Category) : f.categoryOf source = (.ok c : Except (CatalogueError α) Category) ↔
      Category.parse? f.category = some c := by
    unfold CatalogueFile.categoryOf
    cases Category.parse? f.category <;> simp
  simp [addFile, bind_ok_iff, declared, CatalogueFile.checkVersion]

end Draft

end Registry

/-! ## What every entry keeps -/

theorem nodup_map_concat {β : Type} {id : β → String} {items : List β} {b : β}
    (apart : (items.map id).Nodup) (fresh : id b ∉ items.map id) : ((items ++ [b]).map id).Nodup := by
  rw [List.map_append, List.nodup_append']
  exact ⟨apart, List.nodup_singleton _, List.disjoint_singleton.mpr fresh⟩

theorem orders_concat {β : Type} {order : β → Nat} {items : List β} {b : β}
    (counted : items.map order = List.range items.length) (next : order b = items.length) :
    (items ++ [b]).map order = List.range (items ++ [b]).length := by
  rw [List.map_append, counted, List.length_append, List.length_singleton, List.range_succ,
    List.map_singleton, next]

namespace Registry

namespace Draft

variable [Arithmetic α]

/-- A draft as files make it, with everything in it filed under its identifier. -/
structure Sound (d : Draft α) : Prop extends Catalogued d.signatures d.rules where
  positioned : Positioned d.signatures d.positions
  mem_ruleIds : ∀ id, id ∈ d.ruleIds ↔ id ∈ d.rules.map (·.id)

theorem sound_empty : Sound ({} : Draft α) := by
  refine ⟨?_, .nothing, by simp⟩
  constructor <;> simp

namespace Sound

variable {d d' : Draft α}

theorem addSignature {category : Category} {e : SignatureEntry α} (sound : d.Sound)
    (added : d.addSignature category e = .ok d') : d'.Sound := by
  obtain ⟨s, accepted, fresh, rfl⟩ := addSignature_ok_iff.mp added
  have order : s.order = d.signatures.length := by
    obtain ⟨_, _, _, clauses, _, rfl⟩ := SignatureEntry.validate_ok_iff.mp accepted
    rfl
  have unlisted := (sound.positioned.mem_iff s.id).not.mp fresh
  refine ⟨⟨?_, nodup_map_concat sound.ids unlisted, orders_concat sound.orders order,
    sound.ruleValidated, sound.ruleIds, sound.ruleOrders⟩, sound.positioned.concat fresh,
    sound.mem_ruleIds⟩
  exact List.forall_mem_append.mpr
    ⟨sound.validated, List.forall_mem_singleton.mpr ⟨e, category, _, accepted⟩⟩

theorem addRule {category : Category} {e : RuleEntry α} (sound : d.Sound)
    (added : d.addRule category e = .ok d') : d'.Sound := by
  obtain ⟨r, accepted, fresh, rfl⟩ := addRule_ok_iff.mp added
  have order : r.order = d.rules.length := by
    obtain ⟨_, _, _, _, _, rfl⟩ := RuleEntry.validate_ok_iff.mp accepted
    rfl
  have unlisted := (sound.mem_ruleIds r.id).not.mp fresh
  refine ⟨⟨sound.validated, sound.ids, sound.orders, ?_, nodup_map_concat sound.ruleIds unlisted,
    orders_concat sound.ruleOrders order⟩, sound.positioned, ?_⟩
  · exact List.forall_mem_append.mpr
      ⟨sound.ruleValidated, List.forall_mem_singleton.mpr ⟨e, category, _, accepted⟩⟩
  · intro id
    rw [Std.HashSet.mem_insert, beq_iff_eq, sound.mem_ruleIds, List.map_append, List.mem_append,
      List.map_singleton, List.mem_singleton, eq_comm, or_comm]

theorem foldlM_addSignature {category : Category} {entries : List (SignatureEntry α)} (sound : d.Sound)
    (added : entries.foldlM (Draft.addSignature category) d = .ok d') : d'.Sound :=
  foldlM_keeps Sound (fun _ _ _ => addSignature) sound added

theorem addFile {source : String} {f : CatalogueFile α} (sound : d.Sound)
    (added : d.addFile source f = .ok d') : d'.Sound := by
  obtain ⟨_, c, _, next, signatures, rules⟩ := addFile_ok_iff.mp added
  exact foldlM_keeps Sound (fun _ _ _ => addRule) (sound.foldlM_addSignature signatures) rules

end Sound

/-- Whatever files are added, in the end everything is filed under its identifier. -/
theorem sound_of_files {files : List (String × CatalogueFile α)} {d : Draft α}
    (added : files.foldlM (fun (d : Draft α) f => d.addFile f.1 f.2) {} = .ok d) : d.Sound :=
  foldlM_keeps Sound (fun _ _ _ => Sound.addFile) sound_empty added

end Draft

end Registry

/-! ## Resolving references -/

namespace Registry

/-- What acceptance promises of a registry. -/
structure Consistent [Arithmetic α] (r : Registry α) : Prop extends Catalogued r.signatures r.rules where
  positioned : Positioned r.signatures r.positions
  namesApart : ∀ rule ∈ r.rules, rule.id ∉ r.signatures.map (·.id)
  resolved : ∀ rule ∈ r.rules, ∀ id ∈ rule.signatures,
    ∃ s ∈ r.signatures, s.id = id ∧ s.category = rule.category

namespace Draft

theorem Sound.checkReference_ok_iff [Arithmetic α] {d : Draft α} (sound : d.Sound) {r : Rule α}
    {id : String} :
    d.checkReference r id = .ok () ↔ ∃ s ∈ d.signatures, s.id = id ∧ s.category = r.category := by
  have found (s : Signature α) : signatureAt? d.positions d.signatures id = some s ↔
      s ∈ d.signatures ∧ s.id = id := sound.positioned.signatureAt?_eq_some_iff
  simp only [← and_assoc, ← found]
  unfold checkReference
  cases signatureAt? d.positions d.signatures id with
  | none => simp
  | some s => by_cases own : s.category = r.category <;> simp [own]

theorem Sound.checkRule_ok_iff [Arithmetic α] {d : Draft α} (sound : d.Sound) {r : Rule α} :
    d.checkRule r = .ok () ↔ r.id ∉ d.signatures.map (·.id) ∧
      ∀ id ∈ r.signatures, ∃ s ∈ d.signatures, s.id = id ∧ s.category = r.category := by
  rw [checkRule, ite_error_ok_iff, forM_ok_iff, ← Std.HashMap.mem_iff_contains,
    sound.positioned.mem_iff]
  simp only [sound.checkReference_ok_iff]

theorem finish_ok_iff {d : Draft α} {r : Registry α} :
    d.finish = .ok r ↔ (∀ rule ∈ d.rules, d.checkRule rule = .ok ()) ∧
      ⟨d.signatures, d.rules, d.positions, indexAll d.signatures, rfl⟩ = r := by
  rw [finish, bind_ok_iff]
  constructor
  · rintro ⟨⟨⟩, checked, same⟩
    exact ⟨forM_ok_iff.mp checked, Except.ok.inj same⟩
  · rintro ⟨checked, same⟩
    exact ⟨(), forM_ok_iff.mpr checked, congrArg _ same⟩

end Draft

variable [Arithmetic α]

/-- A registry that some files are accepted as. -/
def Accepted (r : Registry α) : Prop := ∃ files, ofFiles files = .ok r

theorem Accepted.consistent {r : Registry α} (accepted : r.Accepted) : r.Consistent := by
  obtain ⟨files, built⟩ := accepted
  obtain ⟨d, added, finished⟩ := bind_ok_iff.mp built
  have sound := Draft.sound_of_files added
  obtain ⟨checked, rfl⟩ := Draft.finish_ok_iff.mp finished
  refine ⟨sound.toCatalogued, sound.positioned, ?_, ?_⟩
  · intro rule member
    exact (sound.checkRule_ok_iff.mp (checked rule member)).1
  · intro rule member
    exact (sound.checkRule_ok_iff.mp (checked rule member)).2

namespace Consistent

omit [Arithmetic α] in
/-- Items at counted positions ascend, also when only some of them are kept. -/
theorem filter_ascends {β : Type} {order : β → Nat} {items : List β}
    (counted : items.map order = List.range items.length) (keep : β → Bool) :
    (items.filter keep).Pairwise fun a b => order a < order b := by
  have ascends : (items.map order).Pairwise (· < ·) := by
    rw [counted]
    exact List.pairwise_lt_range
  exact (List.pairwise_map.mp ascends).filter keep

variable {r : Registry α} (consistent : r.Consistent)

include consistent

theorem signature?_eq {s : Signature α} (member : s ∈ r.signatures) : r.signature? s.id = some s :=
  consistent.positioned.signatureAt?_eq_some_iff.mpr ⟨member, rfl⟩

theorem signaturesFor_ascends (c : Category) :
    (r.signaturesFor c).Pairwise fun a b => a.order < b.order :=
  filter_ascends consistent.orders _

theorem signaturesFor_ids (c : Category) : ((r.signaturesFor c).map (·.id)).Nodup :=
  consistent.ids.sublist (List.filter_sublist.map _)

theorem rulesFor_ascends (c : Category) :
    (r.rulesFor c).Pairwise fun a b => a.order < b.order :=
  filter_ascends consistent.ruleOrders _

end Consistent

/-! ## Scanning -/

omit [Arithmetic α] in
theorem indexes_lookup (r : Registry α) (c : Category) :
    r.indexes.lookup c = some (.build c (r.signaturesFor c)) := by
  rw [r.indexes_eq, indexAll]
  exact lookup_map_of_mem (fun c => SignatureIndex.build c (r.signaturesFor c)) (Category.mem_all c)

omit [Arithmetic α] in
/-- A category is scanned for its signatures, arranged anew. -/
theorem scan_eq (r : Registry α) (c : Category) (m : FactModel) :
    r.scan c m = (SignatureIndex.build c (r.signaturesFor c)).scan m := by
  rw [scan, r.indexes_lookup c]

omit [Arithmetic α] in
theorem scan_category {r : Registry α} {c : Category} {m : FactModel} {x : RawMatch}
    (member : x ∈ r.scan c m) : x.category = c := by
  rw [scan_eq, SignatureIndex.scan] at member
  obtain ⟨h, _, rfl⟩ := List.mem_map.mp member
  rfl

/-! ## A small catalogue -/

/-- An entry that asks for one symbol. -/
def symbolEntry (id symbol : String) : SignatureEntry Rat :=
  ⟨id, "", 4 / 5, [{ symbols := some [symbol] }]⟩

/-- An entry that ties two signatures. -/
def guardedEntry : RuleEntry Rat := ⟨"guarded", "", ["deny", "probe"], 1 / 10⟩

def debuggerFile : CatalogueFile Rat :=
  ⟨1, "anti-debug", [symbolEntry "deny" "ptrace", symbolEntry "probe" "sysctl"], [guardedEntry]⟩

/-- What is taken from that file. -/
def debuggerDraft : Draft Rat :=
  ⟨[(symbolEntry "deny" "ptrace").toSignature .antiDebug 0 [.names ["ptrace"]],
    (symbolEntry "probe" "sysctl").toSignature .antiDebug 1 [.names ["sysctl"]]],
    [guardedEntry.toRule .antiDebug 0 ["deny", "probe"]],
    (({} : Std.HashMap String Nat).insert "deny" 0).insert "probe" 1,
    ({} : Std.HashSet String).insert "guarded"⟩

def debuggerRegistry : Registry Rat :=
  ⟨debuggerDraft.signatures, debuggerDraft.rules, debuggerDraft.positions,
    indexAll debuggerDraft.signatures, rfl⟩

theorem symbolEntry_accepted (id symbol : String) (named : (Text.trim id).isEmpty = false)
    (filled : Text.isBlankText symbol = false) (c : Category) (order : Nat) :
    (symbolEntry id symbol).validate c order =
      .ok ((symbolEntry id symbol).toSignature c order [.names [symbol]]) := by
  have weighs : isWeight (4 / 5 : Rat) := by decide +kernel
  exact SignatureEntry.validate_symbol (e := symbolEntry id symbol) rfl named weighs filled

theorem guardedEntry_accepted (c : Category) (order : Nat) :
    guardedEntry.validate c order = .ok (guardedEntry.toRule c order ["deny", "probe"]) := by
  have listed : (references [] guardedEntry.signatures : Except (RuleFault Rat) (List String)) =
      .ok ["deny", "probe"] := references_ok_iff.mpr ⟨by decide, by decide, by simp⟩
  exact RuleEntry.validate_ok_iff.mpr
    ⟨by decide, _, listed, by decide, by decide +kernel, rfl⟩

theorem debuggerFile_added : Draft.addFile {} "sample" debuggerFile = .ok debuggerDraft := by
  have first := symbolEntry_accepted "deny" "ptrace" (by decide) (by decide)
  have second := symbolEntry_accepted "probe" "sysctl" (by decide) (by decide)
  refine Draft.addFile_ok_iff.mpr
    ⟨rfl, .antiDebug, by decide, { debuggerDraft with rules := [], ruleIds := {} }, ?_, ?_⟩
  · refine bind_ok_iff.mpr
      ⟨_, Draft.addSignature_ok_iff.mpr ⟨_, first _ _, Std.HashMap.not_mem_empty, rfl⟩, ?_⟩
    refine bind_ok_iff.mpr ⟨_, Draft.addSignature_ok_iff.mpr ⟨_, second _ _, ?_, rfl⟩, rfl⟩
    exact Std.HashMap.mem_insert.not.mpr (not_or.mpr ⟨by decide, Std.HashMap.not_mem_empty⟩)
  · exact bind_ok_iff.mpr ⟨_, Draft.addRule_ok_iff.mpr
      ⟨_, guardedEntry_accepted _ _, Std.HashSet.not_mem_empty, rfl⟩, rfl⟩

theorem debuggerRegistry_accepted : debuggerRegistry.Accepted := by
  have added : [("sample", debuggerFile)].foldlM
      (fun (d : Draft Rat) f => d.addFile f.1 f.2) {} = .ok debuggerDraft :=
    bind_ok_iff.mpr ⟨_, debuggerFile_added, rfl⟩
  refine ⟨[("sample", debuggerFile)], bind_ok_iff.mpr ⟨debuggerDraft, added, ?_⟩⟩
  refine Draft.finish_ok_iff.mpr ⟨?_, rfl⟩
  intro r member
  rw [List.mem_singleton.mp member, (Draft.sound_of_files added).checkRule_ok_iff]
  decide

/-! ## A catalogue whose rules overlap -/

/-- An entry that ties two signatures and adds nothing. -/
def decoyEntry : RuleEntry Rat := ⟨"decoy", "", ["probe", "trace"], 0⟩

def decoyFile : CatalogueFile Rat :=
  ⟨1, "anti-debug", [symbolEntry "deny" "ptrace", symbolEntry "probe" "sysctl",
    symbolEntry "trace" "dtrace"], [decoyEntry, guardedEntry]⟩

def denySignature : Signature Rat :=
  (symbolEntry "deny" "ptrace").toSignature .antiDebug 0 [.names ["ptrace"]]

def probeSignature : Signature Rat :=
  (symbolEntry "probe" "sysctl").toSignature .antiDebug 1 [.names ["sysctl"]]

def traceSignature : Signature Rat :=
  (symbolEntry "trace" "dtrace").toSignature .antiDebug 2 [.names ["dtrace"]]

def decoyRule : Rule Rat := decoyEntry.toRule .antiDebug 0 ["probe", "trace"]

def guardedRule : Rule Rat := guardedEntry.toRule .antiDebug 1 ["deny", "probe"]

/-- What is taken from that file. -/
def decoyDraft : Draft Rat :=
  ⟨[denySignature, probeSignature, traceSignature], [decoyRule, guardedRule],
    ((({} : Std.HashMap String Nat).insert "deny" 0).insert "probe" 1).insert "trace" 2,
    (({} : Std.HashSet String).insert "decoy").insert "guarded"⟩

/-- A registry in which two rules of one size share a signature, the weaker one declared first. -/
def decoyRegistry : Registry Rat :=
  ⟨decoyDraft.signatures, decoyDraft.rules, decoyDraft.positions, indexAll decoyDraft.signatures, rfl⟩

theorem decoyEntry_accepted (c : Category) (order : Nat) :
    decoyEntry.validate c order = .ok (decoyEntry.toRule c order ["probe", "trace"]) := by
  have listed : (references [] decoyEntry.signatures : Except (RuleFault Rat) (List String)) =
      .ok ["probe", "trace"] := references_ok_iff.mpr ⟨by decide, by decide, by simp⟩
  exact RuleEntry.validate_ok_iff.mpr
    ⟨by decide, _, listed, by decide, by decide, rfl⟩

theorem decoyFile_added : Draft.addFile {} "sample" decoyFile = .ok decoyDraft := by
  have deny := symbolEntry_accepted "deny" "ptrace" (by decide) (by decide)
  have probe := symbolEntry_accepted "probe" "sysctl" (by decide) (by decide)
  have trace := symbolEntry_accepted "trace" "dtrace" (by decide) (by decide)
  refine Draft.addFile_ok_iff.mpr
    ⟨rfl, .antiDebug, by decide, { decoyDraft with rules := [], ruleIds := {} }, ?_, ?_⟩
  · refine bind_ok_iff.mpr
      ⟨_, Draft.addSignature_ok_iff.mpr ⟨_, deny _ _, Std.HashMap.not_mem_empty, rfl⟩, ?_⟩
    refine bind_ok_iff.mpr ⟨_, Draft.addSignature_ok_iff.mpr ⟨_, probe _ _, ?_, rfl⟩, ?_⟩
    · exact Std.HashMap.mem_insert.not.mpr (not_or.mpr ⟨by decide, Std.HashMap.not_mem_empty⟩)
    · refine bind_ok_iff.mpr ⟨_, Draft.addSignature_ok_iff.mpr ⟨_, trace _ _, ?_, rfl⟩, rfl⟩
      refine Std.HashMap.mem_insert.not.mpr (not_or.mpr ⟨by decide, ?_⟩)
      exact Std.HashMap.mem_insert.not.mpr (not_or.mpr ⟨by decide, Std.HashMap.not_mem_empty⟩)
  · refine bind_ok_iff.mpr ⟨_, Draft.addRule_ok_iff.mpr
      ⟨_, decoyEntry_accepted _ _, Std.HashSet.not_mem_empty, rfl⟩, ?_⟩
    refine bind_ok_iff.mpr ⟨_, Draft.addRule_ok_iff.mpr ⟨_, guardedEntry_accepted _ _, ?_, rfl⟩, rfl⟩
    exact Std.HashSet.mem_insert.not.mpr (not_or.mpr ⟨by decide, Std.HashSet.not_mem_empty⟩)

theorem decoyRegistry_accepted : decoyRegistry.Accepted := by
  have added : [("sample", decoyFile)].foldlM
      (fun (d : Draft Rat) f => d.addFile f.1 f.2) {} = .ok decoyDraft :=
    bind_ok_iff.mpr ⟨_, decoyFile_added, rfl⟩
  refine ⟨[("sample", decoyFile)], bind_ok_iff.mpr ⟨decoyDraft, added, ?_⟩⟩
  refine Draft.finish_ok_iff.mpr ⟨?_, rfl⟩
  rintro r (_ | ⟨_, _ | ⟨_, ⟨⟩⟩⟩)
  · rw [(Draft.sound_of_files added).checkRule_ok_iff]
    decide
  · rw [(Draft.sound_of_files added).checkRule_ok_iff]
    decide

/-! ## Texts -/

/-- Texts are read one by one, each as its turn comes. -/
def addText (d : Draft Float) (t : String × String) : Except (CatalogueError Float) (Draft Float) :=
  CatalogueFile.ofText t.1 t.2 >>= d.addFile t.1

theorem foldlM_addText_ok_iff {texts : List (String × String)} {d d' : Draft Float} :
    texts.foldlM addText d = .ok d' ↔
      ∃ files, List.Forall₂ (fun (t : String × String) f =>
          f.1 = t.1 ∧ CatalogueFile.ofText t.1 t.2 = .ok f.2) texts files ∧
        files.foldlM (fun d (f : String × CatalogueFile Float) => d.addFile f.1 f.2) d = .ok d' := by
  induction texts generalizing d with
  | nil => simp
  | cons t rest ih =>
    simp only [List.foldlM_cons, bind_ok_iff, ih, addText]
    constructor
    · rintro ⟨next, ⟨f, read, added⟩, files, each, folded⟩
      exact ⟨(t.1, f) :: files, .cons ⟨rfl, read⟩ each, bind_ok_iff.mpr ⟨next, added, folded⟩⟩
    · rintro ⟨files, each, folded⟩
      cases each with
      | @cons _ f _ files first each =>
        obtain ⟨next, added, folded⟩ := bind_ok_iff.mp folded
        simp only [first.1] at added
        exact ⟨next, ⟨f.2, first.2, added⟩, files, each, folded⟩

/-- Texts are accepted as the files that they are read as. -/
theorem ofTexts_ok_iff {texts : List (String × String)} {r : Registry Float} :
    ofTexts texts = .ok r ↔
      ∃ files, List.Forall₂ (fun (t : String × String) f =>
          f.1 = t.1 ∧ CatalogueFile.ofText t.1 t.2 = .ok f.2) texts files ∧ ofFiles files = .ok r := by
  have folded : ofTexts texts = texts.foldlM addText {} >>= Draft.finish := rfl
  have files (files : List (String × CatalogueFile Float)) : ofFiles files =
      files.foldlM (fun d (f : String × CatalogueFile Float) => d.addFile f.1 f.2) {} >>=
        Draft.finish := rfl
  simp only [folded, files, bind_ok_iff, foldlM_addText_ok_iff]
  constructor
  · rintro ⟨d, ⟨files, each, added⟩, finished⟩
    exact ⟨files, each, d, added, finished⟩
  · rintro ⟨files, each, d, added, finished⟩
    exact ⟨d, ⟨files, each, added⟩, finished⟩

theorem accepted_of_ofTexts {texts : List (String × String)} {r : Registry Float}
    (accepted : ofTexts texts = .ok r) : r.Accepted := by
  obtain ⟨files, _, built⟩ := ofTexts_ok_iff.mp accepted
  exact ⟨files, built⟩

end Registry

end TechniqueScan
