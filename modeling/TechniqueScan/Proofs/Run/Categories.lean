import TechniqueScan.Proofs.Catalogue.Acceptance
import TechniqueScan.Proofs.Catalogue.Keys
import TechniqueScan.Proofs.Correlation.Categories
import TechniqueScan.Proofs.Correlation.Outcome
import TechniqueScan.Proofs.Run
import TechniqueScan.Proofs.Scan.Grounds
import TechniqueScan.Text.Lines

/-!
Categories do not interfere. What a run reports in a category depends on the texts that declare the
category, on the facts and on the settings of the listing, but not on other texts or on which other
categories are active.
-/

namespace TechniqueScan

open Document

variable {α : Type}

/-! ## Scanning -/

namespace SignatureIndex

theorem placedClauses_unplaced (signatures : List (Signature α)) :
    placedClauses (signatures.map Signature.unplaced) = placedClauses signatures := by
  rw [placedClauses, placedClauses, List.zipIdx_map, List.flatMap_map]
  rfl

/-- The arrangement of signatures does not depend on their positions in the catalogue. -/
theorem build_unplaced (c : Category) (signatures : List (Signature α)) :
    build c (signatures.map Signature.unplaced) = build c signatures := by
  have named : (signatures.map Signature.unplaced).map (fun s => (s.id, s.clauses.length)) =
      signatures.map fun s => (s.id, s.clauses.length) := List.map_map ..
  rw [build, placedClauses_unplaced, named]
  rfl

theorem mem_signatureHits_signature {m : FactModel} {k count : Nat} {hits : List ClauseHit} {h : Hit}
    (member : h ∈ signatureHits m k count hits) : h.signature = k := by
  unfold signatureHits at member
  split at member
  · obtain ⟨_, _, rfl⟩ := List.mem_map.mp member
    rfl
  · obtain ⟨procedure, _, found⟩ := List.mem_filterMap.mp member
    unfold jointHit? at found
    dsimp only at found
    split at found
    · cases found
      rfl
    · cases found

/-- A scan reports signatures that it was built for. -/
theorem mem_scan_signature {c : Category} {signatures : List (Signature α)} {m : FactModel}
    {x : RawMatch} (member : x ∈ (build c signatures).scan m) :
    ∃ s ∈ signatures, s.id = x.signatureId := by
  obtain ⟨h, hit, rfl⟩ := List.mem_map.mp member
  obtain ⟨k, inside, found⟩ := List.mem_flatMap.mp ((mem_ascending _ _).mp hit)
  have bound : h.signature < signatures.length := by
    rw [mem_signatureHits_signature found]
    simpa [build] using inside
  refine ⟨signatures[h.signature], List.getElem_mem bound, ?_⟩
  simp [build, List.getElem?_eq_getElem bound]

end SignatureIndex

namespace Registry

theorem SameIn.scan_eq {c : Category} {left right : Registry α} (same : left.SameIn c right)
    (m : FactModel) : left.scan c m = right.scan c m := by
  rw [Registry.scan_eq, Registry.scan_eq, ← SignatureIndex.build_unplaced, same.signatures,
    SignatureIndex.build_unplaced]

theorem scan_known (r : Registry α) (c : Category) (m : FactModel) : r.Knows c (r.scan c m) := by
  intro x member
  rw [Registry.scan_eq] at member
  exact SignatureIndex.mem_scan_signature member

end Registry

/-! ## Running -/

theorem Analyzer.categories_nodup (a : Analyzer) : a.categories.Nodup := by
  cases a with
  | only c => exact List.nodup_singleton c
  | all => exact Category.all_nodup

namespace Run

theorem matchesOf_rawMatches (registry : Registry α) (m : FactModel) {a : Analyzer} {c : Category}
    (isActive : c ∈ a.categories) :
    matchesOf (rawMatches registry a.categories m) c = registry.scan c m := by
  rw [matchesOf, rawMatches_eq, flatMap_filter_key (fun _ _ _ member => Registry.scan_category member)
    a.categories_nodup, if_pos isActive]

/-- Whether a warning is of a conflict between rules of a category. -/
def isConflictIn (c : Category) : RunWarning → Bool
  | .ruleConflict x => x.category = c
  | .noSignatures _ => false

variable [Arithmetic α]

/-- What a run reports in an active category is what the matches of that category alone make. -/
theorem outcome_lookup (registry : Registry α) (options : RunOptions α) (m : FactModel) {a : Analyzer}
    {c : Category} (isActive : c ∈ a.categories) :
    (outcomeOf registry options m a).report.perCategory.lookup c =
      some (Report.sectionOf options.report c (scoreGroup options.report.minConfidence
        (correlate registry m (registry.scan c m)).findings)) := by
  have listed := Report.build_lookup options.report a.categories a.title m.binaryId
    ((scoreAll options.report.minConfidence
      (correlate registry m (rawMatches registry a.categories m)).findings options.parallel).flatMap
        (·.2)) isActive
  rwa [scoreAll_filter, correlate_findings_category, matchesOf_rawMatches registry m isActive] at listed

theorem outcome_conflicts {registry : Registry α} (consistent : registry.Consistent)
    (options : RunOptions α) (m : FactModel) {a : Analyzer} {c : Category} (isActive : c ∈ a.categories) :
    (outcomeOf registry options m a).warnings.filter (isConflictIn c) =
      (correlate registry m (registry.scan c m)).conflicts.map .ruleConflict := by
  have missing : (missingSignatures registry a.categories).filter (isConflictIn c) = [] := by
    refine List.filter_eq_nil_iff.mpr fun w member => ?_
    obtain ⟨c', _, rfl⟩ := List.mem_map.mp member
    exact Bool.false_ne_true
  rw [← matchesOf_rawMatches registry m isActive, ← consistent.correlate_conflicts_category]
  simp only [outcomeOf, List.filter_append, missing, List.nil_append, List.filter_map]
  rfl

/-- Two runs report the same in a category that both activate if the texts that declare it are the
same in the same order, whatever the other texts and the other active categories. -/
theorem analyze_category_eq {c : Category} {texts others : List (String × String)}
    {left right : Registry Float} (acceptedLeft : Registry.ofTexts texts = .ok left)
    (acceptedRight : Registry.ofTexts others = .ok right)
    (same : Registry.textsOf c texts = Registry.textsOf c others) (m : FactModel) {a b : Analyzer}
    (isActive : c ∈ a.categories) (isActive' : c ∈ b.categories) {options options' : RunOptions Float}
    (topN : options.report.topN = options'.report.topN)
    (minConfidence : options.report.minConfidence = options'.report.minConfidence)
    {stopped stopped' : Stage → Bool} {outcome outcome' : RunOutcome Float}
    (ran : analyze left options stopped m a = .ok outcome)
    (ran' : analyze right options' stopped' m b = .ok outcome') :
    (∃ listed, outcome.report.perCategory.lookup c = some listed ∧
        outcome'.report.perCategory.lookup c = some listed) ∧
      outcome.warnings.filter (isConflictIn c) = outcome'.warnings.filter (isConflictIn c) := by
  obtain ⟨_, rfl⟩ := analyze_ok_iff.mp ran
  obtain ⟨_, rfl⟩ := analyze_ok_iff.mp ran'
  have consistent := (Registry.accepted_of_ofTexts acceptedLeft).consistent
  have consistent' := (Registry.accepted_of_ofTexts acceptedRight).consistent
  have sameIn := Registry.sameIn_of_textsOf acceptedLeft acceptedRight same
  have correlated : correlate left m (left.scan c m) = correlate right m (right.scan c m) := by
    rw [← sameIn.scan_eq m]
    exact correlate_eq consistent consistent' sameIn m (fun _ => Registry.scan_category)
      (left.scan_known c m)
  constructor
  · refine ⟨_, outcome_lookup left options m isActive, ?_⟩
    rw [outcome_lookup right options' m isActive', correlated, ← minConfidence]
    simp only [Report.sectionOf, topN]
  · rw [outcome_conflicts consistent options m isActive,
      outcome_conflicts consistent' options' m isActive', correlated]

/-! ## Two catalogues that share a file -/

namespace Shared

/-- An entry that asks for one symbol. -/
def importEntry (id symbol : String) : SignatureEntry Float :=
  ⟨id, "", 0.8, [{ symbols := some [symbol] }]⟩

def decoyEntry : RuleEntry Float := ⟨"decoy", "", ["probe", "trace"], 0⟩

def guardedEntry : RuleEntry Float := ⟨"guarded", "", ["deny", "probe"], 0.1⟩

/-- A file with two rules that tie a common signature. -/
def sharedFile : CatalogueFile Float :=
  ⟨1, "anti-debug", [importEntry "deny" "ptrace", importEntry "probe" "sysctl",
    importEntry "trace" "dtrace"], [decoyEntry, guardedEntry]⟩

/-- A file of another category. -/
def otherFile : CatalogueFile Float := ⟨1, "network", [importEntry "open" "socket"], []⟩

def sharedLines : List String :=
  ["version: 1", "category: anti-debug",
    "signatures:",
    "- id: deny", "  weight: 0.8", "  match: [{symbols: [ptrace]}]",
    "- id: probe", "  weight: 0.8", "  match: [{symbols: [sysctl]}]",
    "- id: trace", "  weight: 0.8", "  match: [{symbols: [dtrace]}]",
    "rules:",
    "- id: decoy", "  signatures: [probe, trace]",
    "- id: guarded", "  signatures: [deny, probe]", "  boost: 0.1"]

def otherLines : List String :=
  ["version: 1", "category: network", "signatures:",
    "- id: open", "  weight: 0.8", "  match: [{symbols: [socket]}]"]

def sharedText : String × String := ("debugger.yaml", Text.unlines sharedLines)

def otherText : String × String := ("network.yaml", Text.unlines otherLines)

/-- A text that is written in lines is read line by line. -/
theorem ofText_unlines {source : String} {lines : List String} {f : CatalogueFile Float}
    (read : ((Yaml.readCharacters? (lines.flatMap fun l => l.toList ++ ['\n'])).bind (·.document?)).bind
      (fun v => (CatalogueFile.decode v).toOption) = some f) :
    CatalogueFile.ofText source (Text.unlines lines) = .ok f := by
  have characters : (Text.unlines lines).toList = lines.flatMap fun l => l.toList ++ ['\n'] := by
    simp [Text.unlines, List.flatMap_map]
  obtain ⟨v, isDocument, decoded⟩ := Option.bind_eq_some_iff.mp read
  obtain ⟨content, spelt, held⟩ := Option.bind_eq_some_iff.mp isDocument
  refine Registry.ofText_ok_iff.mpr ⟨v, ?_, ?_⟩
  · rw [Yaml.read?, characters, spelt, Yaml.Text.document?_eq_some_iff.mp held]
  · cases known : CatalogueFile.decode v with
    | ok g => simpa [known, Decoded.toOption] using decoded
    | refused e => simp [known, Decoded.toOption] at decoded

theorem sharedText_read : CatalogueFile.ofText sharedText.1 sharedText.2 = .ok sharedFile :=
  ofText_unlines (by decide +kernel)

theorem otherText_read : CatalogueFile.ofText otherText.1 otherText.2 = .ok otherFile :=
  ofText_unlines (by decide +kernel)

/-! ### Acceptance -/

theorem importEntry_accepted (id symbol : String) (named : (Text.trim id).isEmpty = false)
    (filled : Text.isBlankText symbol = false) (c : Category) (order : Nat) :
    (importEntry id symbol).validate c order =
      .ok ((importEntry id symbol).toSignature c order [.names [symbol]]) := by
  have weighs : isWeight (0.8 : Float) := by decide +kernel
  exact SignatureEntry.validate_symbol (e := importEntry id symbol) rfl named weighs filled

theorem importEntry_valid (id symbol : String) (named : (Text.trim id).isEmpty = false)
    (filled : Text.isBlankText symbol = false) : (importEntry id symbol).Valid :=
  SignatureEntry.validate_accepts_iff.mp ⟨_, importEntry_accepted id symbol named filled .antiDebug 0⟩

theorem sharedFile_valid : sharedFile.Valid := by
  refine ⟨rfl, ⟨.antiDebug, by decide⟩, ?_, ?_⟩
  · rintro e (_ | ⟨_, _ | ⟨_, _ | ⟨_, ⟨⟩⟩⟩⟩)
    · exact importEntry_valid "deny" "ptrace" (by decide) (by decide)
    · exact importEntry_valid "probe" "sysctl" (by decide) (by decide)
    · exact importEntry_valid "trace" "dtrace" (by decide) (by decide)
  · rintro e (_ | ⟨_, _ | ⟨_, ⟨⟩⟩⟩)
    · exact ⟨by decide, by decide, by decide, by decide +kernel, by decide +kernel⟩
    · exact ⟨by decide, by decide, by decide, by decide +kernel, by decide +kernel⟩

theorem otherFile_valid : otherFile.Valid := by
  refine ⟨rfl, ⟨.network, by decide⟩, ?_, ?_⟩
  · rintro e (_ | ⟨_, ⟨⟩⟩)
    exact importEntry_valid "open" "socket" (by decide) (by decide)
  · rintro e ⟨⟩

theorem sharedText_accepted : ∃ r, Registry.ofTexts [sharedText] = .ok r := by
  refine Registry.exists_ofTexts (.cons sharedText_read .nil) ?_
  refine ⟨?_, by decide, by decide, by decide, by decide⟩
  rintro f (_ | ⟨_, ⟨⟩⟩)
  exact sharedFile_valid

theorem bothTexts_accepted : ∃ r, Registry.ofTexts [otherText, sharedText] = .ok r := by
  refine Registry.exists_ofTexts (.cons otherText_read (.cons sharedText_read .nil)) ?_
  refine ⟨?_, by decide, by decide, by decide, by decide⟩
  rintro f (_ | ⟨_, _ | ⟨_, ⟨⟩⟩⟩)
  · exact otherFile_valid
  · exact sharedFile_valid

theorem declares_shared (c : Category) :
    Registry.declares c sharedText = decide (c = .antiDebug) := by
  have own : Category.parse? sharedFile.category = some .antiDebug := by decide
  rw [Registry.declares, sharedText_read]
  exact decide_eq_decide.mpr (by rw [own, Option.some.injEq, eq_comm])

theorem declares_other (c : Category) : Registry.declares c otherText = decide (c = .network) := by
  have own : Category.parse? otherFile.category = some .network := by decide
  rw [Registry.declares, otherText_read]
  exact decide_eq_decide.mpr (by rw [own, Option.some.injEq, eq_comm])

theorem textsOf_shared : Registry.textsOf .antiDebug [sharedText] = [sharedText.2] ∧
    Registry.textsOf .antiDebug [otherText, sharedText] = [sharedText.2] ∧
    Registry.textsOf .network [otherText, sharedText] = [otherText.2] := by
  simp [Registry.textsOf, declares_shared, declares_other]

/-! ### What is found -/

/-- Facts that hit the signatures of both files. -/
def sharedCalls : List Fact :=
  decoyedCalls ++ [⟨⟨.procedure "main", 24⟩, .symbol "socket" .imported, none⟩]

def sharedSample : FactModel := .ofFacts "sample" sharedCalls

/-- Where these facts are. -/
def mainSite : Site := ⟨.procedure "main", .antiDebug⟩

/-- A signature that a catalogue declares is found, wherever the catalogue places it. -/
theorem occurs_of_declared {r : Registry Float} (consistent : r.Consistent) {c : Category}
    {t : Signature Float} (declared : t ∈ (r.signaturesFor c).map Signature.unplaced) {symbol : String}
    (asks : t.clauses = [.names [symbol]]) (imported : ∃ f ∈ sharedCalls.map Fact.normal,
      (Pattern.names [symbol]).accepts f ∧ f.scope = .procedure "main") :
    ∃ x ∈ r.scan c sharedSample, x.site = ⟨.procedure "main", c⟩ ∧ x.signatureId = t.id := by
  obtain ⟨s, listed, rfl⟩ := List.mem_map.mp declared
  exact (consistent.occurs_iff listed asks (fun _ => Pattern.noConfusion) _).mpr imported

theorem sharedFile_declares :
    sharedFile.declaredSignatures =
        [(importEntry "deny" "ptrace").toSignature .antiDebug 0 [.names ["ptrace"]],
          (importEntry "probe" "sysctl").toSignature .antiDebug 0 [.names ["sysctl"]],
          (importEntry "trace" "dtrace").toSignature .antiDebug 0 [.names ["dtrace"]]] ∧
      sharedFile.declaredRules = [decoyEntry.toRule .antiDebug 0 ["probe", "trace"],
        guardedEntry.toRule .antiDebug 0 ["deny", "probe"]] := by
  have own : Category.parse? sharedFile.category = some .antiDebug := by decide
  have deny := importEntry_accepted "deny" "ptrace" (by decide) (by decide) .antiDebug 0
  have probe := importEntry_accepted "probe" "sysctl" (by decide) (by decide) .antiDebug 0
  have trace := importEntry_accepted "trace" "dtrace" (by decide) (by decide) .antiDebug 0
  constructor
  · simp only [CatalogueFile.declaredSignatures, own]
    simp [sharedFile, deny, probe, trace, Except.toOption]
  · exact CatalogueFile.declaredRules_eq (Category.parse?_eq_some_iff.mp own) sharedFile_valid.rules

theorem otherFile_declares : otherFile.declaredSignatures =
    [(importEntry "open" "socket").toSignature .network 0 [.names ["socket"]]] := by
  have own : Category.parse? otherFile.category = some .network := by decide
  have opens := importEntry_accepted "open" "socket" (by decide) (by decide) .network 0
  simp only [CatalogueFile.declaredSignatures, own]
  simp [otherFile, opens, Except.toOption]

theorem filesIn_singleton {text : String} {f : CatalogueFile Float}
    (read : CatalogueFile.ofText "" text = .ok f) :
    ([text].filterMap fun t => (CatalogueFile.ofText "" t).toOption) = [f] := by
  simp [read, Except.toOption]

/-- The signature of the other file is found as well. -/
theorem other_occurs {r : Registry Float} (accepted : Registry.ofTexts [otherText, sharedText] = .ok r) :
    ∃ x ∈ r.scan .network sharedSample, x.signatureId = "open" := by
  have consistent := (Registry.accepted_of_ofTexts accepted).consistent
  have held := (Registry.ofTexts_holds accepted .network).1
  rw [textsOf_shared.2.2, filesIn_singleton (Registry.ofText_source otherText_read ""),
    List.flatMap_singleton, otherFile_declares] at held
  have declared := List.mem_singleton_self
    ((importEntry "open" "socket").toSignature .network 0 [.names ["socket"]])
  rw [← held] at declared
  obtain ⟨x, scanned, _, same⟩ := occurs_of_declared consistent declared rfl (by decide)
  exact ⟨x, scanned, same⟩

section

variable {texts : List (String × String)} {r : Registry Float}
  (accepted : Registry.ofTexts texts = .ok r) (own : Registry.textsOf .antiDebug texts = [sharedText.2])

include accepted own

theorem holds_shared :
    (r.signaturesFor .antiDebug).map Signature.unplaced = sharedFile.declaredSignatures ∧
      (r.rulesFor .antiDebug).map Rule.unplaced = sharedFile.declaredRules := by
  have held := Registry.ofTexts_holds accepted .antiDebug
  rwa [own, filesIn_singleton (Registry.ofText_source sharedText_read ""), List.flatMap_singleton,
    List.flatMap_singleton] at held

/-- All three imports are found in one procedure. -/
theorem shared_occurs : ∀ id ∈ ["deny", "probe", "trace"],
    ∃ x ∈ r.scan .antiDebug sharedSample, x.site = mainSite ∧ x.signatureId = id := by
  have consistent := (Registry.accepted_of_ofTexts accepted).consistent
  have found {t : Signature Float} (declared : t ∈ sharedFile.declaredSignatures) {symbol : String}
      (asks : t.clauses = [.names [symbol]]) (imported : ∃ f ∈ sharedCalls.map Fact.normal,
        (Pattern.names [symbol]).accepts f ∧ f.scope = .procedure "main") :=
    occurs_of_declared consistent ((holds_shared accepted own).1.symm ▸ declared) asks imported
  rw [sharedFile_declares.1] at found
  rintro id (_ | ⟨_, _ | ⟨_, _ | ⟨_, ⟨⟩⟩⟩⟩)
  · exact found List.mem_cons_self rfl (by decide)
  · exact found (List.mem_cons_of_mem _ List.mem_cons_self) rfl (by decide)
  · exact found (List.mem_cons_of_mem _ (List.mem_cons_of_mem _ List.mem_cons_self)) rfl (by decide)

/-- The rules of the category, wherever the catalogue places them, and the signature that they share. -/
theorem shared_rules : ∃ decoy guarded : Rule Float, r.rulesFor .antiDebug = [decoy, guarded] ∧
    decoy.id = "decoy" ∧ guarded.id = "guarded" ∧ r.ConsideredBefore decoy guarded ∧
    "probe" ∈ decoy.signatures ∧ "probe" ∈ guarded.signatures := by
  have consistent := (Registry.accepted_of_ofTexts accepted).consistent
  have rules := (holds_shared accepted own).2
  rw [sharedFile_declares.2] at rules
  obtain ⟨decoy, rest, listed, first, others⟩ := List.map_eq_cons_iff.mp rules
  obtain ⟨guarded, last, rfl, second, none⟩ := List.map_eq_cons_iff.mp others
  obtain rfl := List.map_eq_nil_iff.mp none
  have ties : decoy.signatures = ["probe", "trace"] := (Rule.mk.inj first).2.2.2.1
  have ties' : guarded.signatures = ["deny", "probe"] := (Rule.mk.inj second).2.2.2.1
  refine ⟨decoy, guarded, listed, (Rule.mk.inj first).1, (Rule.mk.inj second).1,
    .inr ⟨by simp [ties, ties'], ?_⟩, by simp [ties], by simp [ties']⟩
  have declared : ∀ rule ∈ [decoy, guarded], rule ∈ r.rules := by
    rw [← listed]
    exact fun rule member => (List.mem_filter.mp member).1
  have ascends := consistent.rulesFor_ascends .antiDebug
  rw [listed] at ascends
  refine (consistent.declaredBefore_iff (declared decoy (by simp)) (declared guarded (by simp))).mpr ?_
  exact List.rel_of_pairwise_cons ascends List.mem_cons_self

theorem shared_considered (rule : Rule Float) :
    rule ∈ consideredAt r mainSite (matchesAt (r.scan .antiDebug sharedSample) mainSite) ↔
      rule ∈ r.rulesFor .antiDebug := by
  rw [mem_consideredAt, Registry.rulesFor, List.mem_filter, decide_eq_true_iff]
  constructor
  · intro candidate
    exact ⟨candidate.declared, candidate.own⟩
  · rintro ⟨declared, category⟩
    refine ⟨declared, category, rfl, fun id inside => shared_occurs accepted own id ?_⟩
    have named : ∀ e ∈ sharedFile.declaredRules, ∀ id ∈ e.signatures, id ∈ ["deny", "probe", "trace"] := by
      rw [sharedFile_declares.2]
      decide
    refine named rule.unplaced ?_ id inside
    rw [← (holds_shared accepted own).2]
    exact List.mem_map_of_mem (List.mem_filter.mpr ⟨declared, decide_eq_true category⟩)

/-- The rules of the shared file contend for a signature, and the one declared first keeps it. -/
theorem shared_contends :
    (∃ f ∈ (correlate r sharedSample (r.scan .antiDebug sharedSample)).findings,
      f.rule = some "decoy") ∧
      ⟨.antiDebug, .procedure "main", "probe", "decoy", "guarded"⟩ ∈
        (correlate r sharedSample (r.scan .antiDebug sharedSample)).conflicts := by
  have consistent := (Registry.accepted_of_ofTexts accepted).consistent
  have considered := shared_considered accepted own
  obtain ⟨decoy, guarded, listed, named, named', before, ties, ties'⟩ := shared_rules accepted own
  have only : ∀ rule ∈ consideredAt r mainSite (matchesAt (r.scan .antiDebug sharedSample) mainSite),
      rule = decoy ∨ rule = guarded := by
    intro rule member
    rw [considered, listed] at member
    simpa using member
  have chosen := consistent.selectionAt_chosen (r.scan .antiDebug sharedSample) mainSite
  have fires := chosen.choice.first_fires consistent.consideredBefore_asymm only before
    ((considered decoy).mpr (by simp [listed]))
  constructor
  · exact ⟨_, (consistent.mem_correlate sharedSample).mpr
      (correlateAt_of_fired r sharedSample mainSite fires), congrArg some named⟩
  · refine ((consistent.mem_correlate_conflicts sharedSample).mpr ((chosen.mem_conflicts _).mpr
      ⟨guarded, (considered guarded).mpr (by simp [listed]), decoy, fires, before, "probe", ties', ties,
        ?_⟩)).1
    rw [conflictOf, named, named']
    rfl

end

end Shared

open Shared

theorem analyze_category_eq_shared : ∃ left right : Registry Float,
    Registry.ofTexts [sharedText] = .ok left ∧
      Registry.ofTexts [otherText, sharedText] = .ok right ∧
      Registry.textsOf .antiDebug [sharedText] = Registry.textsOf .antiDebug [otherText, sharedText] ∧
      (∃ f ∈ (correlate left sharedSample (left.scan .antiDebug sharedSample)).findings,
        f.rule = some "decoy") ∧
      (∃ x ∈ right.scan .network sharedSample, x.signatureId = "open") ∧
      .ruleConflict ⟨.antiDebug, .procedure "main", "probe", "decoy", "guarded"⟩ ∈
        (outcomeOf left ⟨.default, true⟩ sharedSample (.only .antiDebug)).warnings.filter
          (isConflictIn .antiDebug) ∧
      (∃ listed,
        (outcomeOf left ⟨.default, true⟩ sharedSample (.only .antiDebug)).report.perCategory.lookup
          .antiDebug = some listed ∧
        (outcomeOf right ⟨.default, false⟩ sharedSample .all).report.perCategory.lookup .antiDebug =
          some listed) ∧
      (outcomeOf left ⟨.default, true⟩ sharedSample (.only .antiDebug)).warnings.filter
          (isConflictIn .antiDebug) =
        (outcomeOf right ⟨.default, false⟩ sharedSample .all).warnings.filter
          (isConflictIn .antiDebug) := by
  obtain ⟨left, accepted⟩ := sharedText_accepted
  obtain ⟨right, accepted'⟩ := bothTexts_accepted
  have same := textsOf_shared.1.trans textsOf_shared.2.1.symm
  obtain ⟨made, conflict⟩ := shared_contends accepted textsOf_shared.1
  have consistent := (Registry.accepted_of_ofTexts accepted).consistent
  have isActive : Category.antiDebug ∈ (Analyzer.only .antiDebug).categories := List.mem_singleton_self _
  have ran : analyze left ⟨.default, true⟩ (fun _ => false) sharedSample (.only .antiDebug) =
      .ok (outcomeOf left ⟨.default, true⟩ sharedSample (.only .antiDebug)) :=
    analyze_ok_iff.mpr ⟨fun _ => rfl, rfl⟩
  have ran' : analyze right ⟨.default, false⟩ (fun _ => false) sharedSample .all =
      .ok (outcomeOf right ⟨.default, false⟩ sharedSample .all) :=
    analyze_ok_iff.mpr ⟨fun _ => rfl, rfl⟩
  refine ⟨left, right, accepted, accepted', same, made, other_occurs accepted', ?_, ?_⟩
  · rw [outcome_conflicts consistent _ _ isActive]
    exact List.mem_map_of_mem conflict
  · refine analyze_category_eq accepted accepted' same sharedSample isActive (Category.mem_all _) ?_ ?_
      ran ran'
    · rfl
    · rfl

end Run

end TechniqueScan
