import TechniqueScan.Proofs.Correlation.Growth
import TechniqueScan.Proofs.Run.Justification
import TechniqueScan.Proofs.Run.Score
import TechniqueScan.Proofs.Scan.Growth

/-!
Runs on models that grow. Further facts may complete a rule that takes precedence over another one and
breaks up its finding; apart from that, they never make a category score less.
-/

namespace TechniqueScan

namespace Run

variable {registry : Registry Rat} {m m' : FactModel} {c : Category}

/-! ## Rules that give way -/

/-- A conflict that a later run warns of, where the rule of a finding of an earlier run is dropped in the
scope of the finding for a rule which takes precedence and has tied nothing there before. -/
structure DroppedFor (registry : Registry Rat) (before after : RunOutcome Rat) (f : Finding Rat)
    (x : RuleConflict) : Prop where
  warned : .ruleConflict x ∈ after.warnings
  category : x.category = f.category
  scope : x.scope = f.scope
  dropped : f.rule = some x.dropped
  signature : x.signature ∈ f.signatures
  precedence : ∃ k ∈ registry.rules, ∃ r ∈ registry.rules, k.id = x.kept ∧ r.id = x.dropped ∧
    registry.ConsideredBefore k r
  fresh : ∀ g ∈ before.report.findings, g.category = f.category → g.scope = f.scope →
    g.rule ≠ some x.kept

/-- Sections on one category of two runs, of which the later one scores less only where the rule of a
finding is dropped, and even then no less than each signature of the finding by itself. -/
structure ScoreKept (registry : Registry Rat) (first second : RunOutcome Rat)
    (before after : CategoryReport Rat) : Prop where
  score : before.maxConfidence ≤ after.maxConfidence ∨
    ∃ f ∈ before.findings, f.confidence = before.maxConfidence ∧ ∃ x, DroppedFor registry first second f x
  finding : ∀ f ∈ before.findings,
    f.confidence ≤ after.maxConfidence ∨ ∃ x, DroppedFor registry first second f x
  signature : ∀ f ∈ before.findings, ∀ id ∈ f.signatures, ∀ s, registry.signature? id = some s →
    combineWeights [s.weight] ≤ after.maxConfidence

theorem matchesAt_scan {a : Analyzer} (isActive : c ∈ a.categories) (scope : Scope) :
    matchesAt (registry.scan c m) ⟨scope, c⟩ = matchesAt (rawMatches registry a.categories m) ⟨scope, c⟩ := by
  rw [← matchesOf_rawMatches registry m isActive]
  exact matchesAt_matchesOf (rawMatches registry a.categories m) (rfl : (⟨scope, c⟩ : Site).category = c)

/-- The rule of a reported finding fires in the scope of the finding. -/
theorem reported_rule_fires (consistent : registry.Consistent) {options : RunOptions Rat} {a : Analyzer}
    {g : Finding Rat} (listed : g ∈ (outcomeOf registry options m a).report.findings) {id : String}
    (tied : g.rule = some id) :
    ∃ r ∈ (selectionAt registry ⟨g.scope, g.category⟩
      (matchesAt (registry.scan g.category m) ⟨g.scope, g.category⟩)).fired, r.id = id := by
  obtain ⟨isActive, left⟩ := mem_outcome_findings listed
  obtain ⟨f, origin, key, agrees⟩ := deduplicate_rests left
  obtain ⟨member, _⟩ := (mem_mergedInto consistent).mp (List.mem_filter.mpr ⟨origin, decide_eq_true key⟩)
  rw [matchesAt_scan isActive]
  rw [← agrees.rule] at tied
  rcases correlateAt_cases registry m _ member with ⟨r, fired, rfl, _⟩ | ⟨x, _, _, rfl, _⟩
  · exact ⟨r, fired, Option.some.inj tied⟩
  · cases tied

theorem droppedFor_of_givesWay (consistent : registry.Consistent) {options options' : RunOptions Rat}
    {a a' : Analyzer} (isActive' : c ∈ a'.categories) {f : Finding Rat} (own : f.category = c)
    {r k : Rule Rat} {signature : String} (declared : r ∈ registry.rules) (tied : f.rule = some r.id)
    (listed : ∀ id, id ∈ r.signatures → id ∈ f.signatures)
    (givesWay : GivesWay registry m' (registry.scan c m) (registry.scan c m') ⟨f.scope, c⟩ k r signature) :
    DroppedFor registry (outcomeOf registry options m a) (outcomeOf registry options' m' a') f
      (conflictOf ⟨f.scope, c⟩ k r signature) := by
  have declared' := (consistent.fired_candidate _ _ givesWay.fires).declared
  refine ⟨?_, own.symm, rfl, tied, listed _ givesWay.shared.1,
    ⟨k, declared', r, declared, rfl, rfl, givesWay.before⟩, ?_⟩
  · have warned := List.mem_map_of_mem (f := RunWarning.ruleConflict) givesWay.conflict
    rw [← outcome_conflicts consistent options' m' isActive'] at warned
    exact (List.mem_filter.mp warned).1
  · intro g member category scope same
    obtain ⟨k', fired, ids⟩ := reported_rule_fires consistent member same
    rw [category, scope, own] at fired
    have declared'' := (consistent.fired_candidate _ _ fired).declared
    obtain rfl : k' = k := List.inj_on_of_nodup_map consistent.ruleIds declared'' declared' ids
    exact givesWay.fresh fired

/-! ## Growing models -/

section Growth

variable (consistent : registry.Consistent) {f : Finding Rat}
  (listed : f ∈ (sectionIn registry m c).findings)
  (kept : KeptIn (registry.scan c m) (registry.scan c m'))

include consistent listed kept

/-- A category goes on scoring no less than a finding unless the rule of the finding gives way. -/
theorem score_keeps_finding :
    f.confidence ≤ (sectionIn registry m' c).maxConfidence ∨
      ∃ r ∈ registry.rules, f.rule = some r.id ∧ (∀ id, id ∈ r.signatures → id ∈ f.signatures) ∧
        ∃ k signature, GivesWay registry m' (registry.scan c m) (registry.scan c m') ⟨f.scope, c⟩ k r
          signature := by
  obtain ⟨_, g, member, agrees⟩ := section_origin consistent listed
  have known : registry.Knows c (matchesAt (registry.scan c m') ⟨f.scope, c⟩) := fun x here =>
    registry.scan_known c m' x ((mem_matchesAt _ _ x).mp here).1
  rcases consistent.confidence_keeps m m' kept known member with
    ⟨h, left, atLeast⟩ | ⟨r, declared, tied, same, givesWay⟩
  · refine .inl ?_
    rw [← consistent.correlate_findings] at left
    rw [← agrees.confidence]
    exact atLeast.trans (le_score consistent (List.mem_filter.mp left).1)
  · refine .inr ⟨r, declared, agrees.rule.symm.trans tied, ?_, givesWay⟩
    intro id tied
    rw [← agrees.signatures]
    exact (same id).mpr tied

/-- Whatever becomes of its rule, a category goes on scoring no less than each signature of a finding
by itself. -/
theorem score_keeps_signature {id : String} (inside : id ∈ f.signatures) {s : Signature Rat}
    (resolved : registry.signature? id = some s) :
    combineWeights [s.weight] ≤ (sectionIn registry m' c).maxConfidence := by
  obtain ⟨_, g, member, agrees⟩ := section_origin consistent listed
  rw [← agrees.signatures] at inside
  obtain ⟨x, here, rfl⟩ := (mem_correlateAt_signatures registry m _ _ _).mp ⟨g, member, inside⟩
  obtain ⟨scanned, site⟩ := (mem_matchesAt _ _ x).mp here
  obtain ⟨x', scanned', same, site'⟩ := kept x scanned
  have known : registry.Knows c (matchesAt (registry.scan c m') ⟨f.scope, c⟩) := fun y here =>
    registry.scan_known c m' y ((mem_matchesAt _ _ y).mp here).1
  have here' := (mem_matchesAt (registry.scan c m') ⟨f.scope, c⟩ x').mpr ⟨scanned', site'.trans site⟩
  obtain ⟨t, declared, own⟩ := known x' here'
  have named : s = t := by
    have resolved' := consistent.signature?_of_listed declared
    rw [own, same, resolved] at resolved'
    exact Option.some.inj resolved'
  obtain ⟨h, left, atLeast⟩ := consistent.weight_le_confidence m' known here' declared own
  rw [← consistent.correlate_findings] at left
  rw [named]
  exact atLeast.trans (le_score consistent (List.mem_filter.mp left).1)

end Growth

/-- Further facts that are no instructions make a category score less only where they complete a rule
that takes precedence over the rule of a finding, and even then no less than each signature of the
finding scores by itself. -/
theorem analyze_score_keeps (accepted : registry.Accepted) {binaryId binaryId' : String}
    {facts facts' : List Fact}
    (grows : (FactModel.ofFacts binaryId facts).GrowsTo (.ofFacts binaryId' facts')) {a a' : Analyzer}
    (isActive : c ∈ a.categories) (isActive' : c ∈ a'.categories) {options options' : RunOptions Rat}
    (default : options.report = .default) (default' : options'.report = .default)
    {stopped stopped' : Stage → Bool} {outcome outcome' : RunOutcome Rat}
    (ran : analyze registry options stopped (.ofFacts binaryId facts) a = .ok outcome)
    (ran' : analyze registry options' stopped' (.ofFacts binaryId' facts') a' = .ok outcome') :
    ∃ before after, outcome.report.perCategory.lookup c = some before ∧
      outcome'.report.perCategory.lookup c = some after ∧
      ScoreKept registry outcome outcome' before after := by
  obtain ⟨_, rfl⟩ := analyze_ok_iff.mp ran
  obtain ⟨_, rfl⟩ := analyze_ok_iff.mp ran'
  have consistent := accepted.consistent
  have kept : KeptIn (registry.scan c (.ofFacts binaryId facts))
      (registry.scan c (.ofFacts binaryId' facts')) := fun x => grows.scan_keeps consistent
  have each {f : Finding Rat} (listed : f ∈ (sectionIn registry (.ofFacts binaryId facts) c).findings) :
      f.confidence ≤ (sectionIn registry (.ofFacts binaryId' facts') c).maxConfidence ∨
        ∃ x, DroppedFor registry (outcomeOf registry options (.ofFacts binaryId facts) a)
          (outcomeOf registry options' (.ofFacts binaryId' facts') a') f x := by
    rcases score_keeps_finding consistent listed kept with
      atLeast | ⟨r, declared, tied, same, k, signature, givesWay⟩
    · exact .inl atLeast
    · exact .inr ⟨_, droppedFor_of_givesWay consistent isActive' (section_origin consistent listed).1
        declared tied same givesWay⟩
  refine ⟨_, _, outcome_section default isActive, outcome_section default' isActive', ?_,
    fun f => each, fun f listed id inside s => score_keeps_signature consistent listed kept inside⟩
  rcases score_reached registry (.ofFacts binaryId facts) c with none | ⟨f, listed, top⟩
  · refine .inl ?_
    rw [none]
    exact score_nonneg
  · rcases each listed with atLeast | dropped
    · rw [top] at atLeast
      exact .inl atLeast
    · exact .inr ⟨f, listed, top, dropped⟩

/-! ## A decoy -/

open Registry

theorem decoyedCalls_main : ∀ f ∈ decoyedCalls.map Fact.normal,
    f.scope = .procedure "main" ∧ f.isInstruction = false := by decide

theorem guardedSample_growsTo : guardedSample.GrowsTo decoyedSample := by
  constructor
  · intro f member
    rw [guardedSample, FactModel.mem_ofFacts] at member
    rw [decoyedSample, FactModel.mem_ofFacts]
    exact List.mem_append_left [_] member
  · intro f member isInstruction
    rw [decoyedSample, FactModel.mem_ofFacts] at member
    rw [(decoyedCalls_main f member).2] at isInstruction
    cases isInstruction

theorem decoySignatures_listed : denySignature ∈ decoyRegistry.signaturesFor .antiDebug ∧
    probeSignature ∈ decoyRegistry.signaturesFor .antiDebug ∧
    traceSignature ∈ decoyRegistry.signaturesFor .antiDebug := by
  simp [Registry.signaturesFor, signaturesOf, decoyRegistry, decoyDraft, denySignature, probeSignature,
    traceSignature, SignatureEntry.toSignature]

theorem decoy_confidences : decoyRegistry.ruleConfidence guardedRule = 241 / 250 ∧
    decoyRegistry.ruleConfidence decoyRule = 24 / 25 ∧
    ∀ s ∈ decoyRegistry.signatures, combineWeights [s.weight] = 4 / 5 :=
  ⟨by decide +kernel, by decide +kernel, by decide +kernel⟩

theorem guardedSample_candidate : Candidate decoyRegistry (decoyRegistry.scan .antiDebug guardedSample)
    ⟨.procedure "main", .antiDebug⟩ guardedRule := by
  have consistent := decoyRegistry_accepted.consistent
  obtain ⟨deny, probe, _⟩ := decoySignatures_listed
  refine ⟨List.mem_cons_of_mem _ List.mem_cons_self, rfl, rfl, ?_⟩
  rintro id (_ | ⟨_, _ | ⟨_, ⟨⟩⟩⟩)
  · exact (consistent.occurs_iff deny rfl (fun _ => Pattern.noConfusion) _).mpr (by decide)
  · exact (consistent.occurs_iff probe rfl (fun _ => Pattern.noConfusion) _).mpr (by decide)

theorem decoyedSample_candidate : Candidate decoyRegistry (decoyRegistry.scan .antiDebug decoyedSample)
    ⟨.procedure "main", .antiDebug⟩ decoyRule := by
  have consistent := decoyRegistry_accepted.consistent
  obtain ⟨_, probe, trace⟩ := decoySignatures_listed
  refine ⟨List.mem_cons_self, rfl, rfl, ?_⟩
  rintro id (_ | ⟨_, _ | ⟨_, ⟨⟩⟩⟩)
  · exact (consistent.occurs_iff probe rfl (fun _ => Pattern.noConfusion) _).mpr (by decide)
  · exact (consistent.occurs_iff trace rfl (fun _ => Pattern.noConfusion) _).mpr (by decide)

/-- Alone, the stronger rule fires. -/
theorem guardedSample_score :
    241 / 250 ≤ (sectionIn decoyRegistry guardedSample .antiDebug).maxConfidence := by
  have consistent := decoyRegistry_accepted.consistent
  obtain ⟨_, _, trace⟩ := decoySignatures_listed
  have absent : decoyRule ∉ (selectionAt decoyRegistry ⟨.procedure "main", .antiDebug⟩ (matchesAt
      (decoyRegistry.scan .antiDebug guardedSample) ⟨.procedure "main", .antiDebug⟩)).fired := by
    intro fired
    have shown := (consistent.occurs_iff trace rfl (fun _ => Pattern.noConfusion) _).mp
      ((consistent.fired_candidate _ _ fired).occur "trace" (by decide))
    revert shown
    decide
  have fires := (guardedRule_fires_iff (consistent.selectionAt_chosen _ _).choice
    (consideredAt_declared _ _ _) ((mem_consideredAt ..).mpr guardedSample_candidate)).mpr absent
  rw [← decoy_confidences.1]
  exact ruleConfidence_le_score consistent fires

/-- With the further import, the weaker rule fires in its place. -/
theorem decoyedSample_score :
    (sectionIn decoyRegistry decoyedSample .antiDebug).maxConfidence ≤ 24 / 25 := by
  have consistent := decoyRegistry_accepted.consistent
  obtain ⟨deny, _, _⟩ := decoySignatures_listed
  refine score_le consistent (by norm_num) ?_ ?_
  · intro scope r fired
    have candidate := consistent.fired_candidate _ _ fired
    have considered := (mem_consideredAt ..).mpr candidate
    rcases decoyRegistry_rules candidate.declared with rfl | rfl
    · exact decoy_confidences.2.1.le
    · -- Both rules are considered in the only procedure there is.
      obtain ⟨f, member, _, same⟩ := (consistent.occurs_iff deny rfl (fun _ => Pattern.noConfusion) _).mp
        (candidate.occur "deny" (by decide))
      obtain rfl : scope = .procedure "main" := same.symm.trans (decoyedCalls_main f member).1
      have choice := (consistent.selectionAt_chosen (decoyRegistry.scan .antiDebug decoyedSample)
        ⟨.procedure "main", .antiDebug⟩).choice
      have declared := consideredAt_declared decoyRegistry (decoyRegistry.scan .antiDebug decoyedSample)
        ⟨.procedure "main", .antiDebug⟩
      have decoy := decoyRule_fires choice declared ((mem_consideredAt ..).mpr decoyedSample_candidate)
      exact ((guardedRule_fires_iff choice declared considered).mp fired decoy).elim
  · intro s listed
    calc combineWeights [s.weight]
      _ = 4 / 5 := decoy_confidences.2.2 s (List.mem_filter.mp listed).1
      _ ≤ 24 / 25 := by norm_num

theorem analyze_score_keeps_decoyed :
    decoyRegistry.Accepted ∧ guardedSample.GrowsTo decoyedSample ∧
      analyze decoyRegistry ⟨.default, true⟩ (fun _ => false) guardedSample .all =
        .ok (outcomeOf decoyRegistry ⟨.default, true⟩ guardedSample .all) ∧
      analyze decoyRegistry ⟨.default, true⟩ (fun _ => false) decoyedSample .all =
        .ok (outcomeOf decoyRegistry ⟨.default, true⟩ decoyedSample .all) ∧
      ∃ before after,
        (outcomeOf decoyRegistry ⟨.default, true⟩ guardedSample .all).report.perCategory.lookup
          .antiDebug = some before ∧
        (outcomeOf decoyRegistry ⟨.default, true⟩ decoyedSample .all).report.perCategory.lookup
          .antiDebug = some after ∧
        ScoreKept decoyRegistry (outcomeOf decoyRegistry ⟨.default, true⟩ guardedSample .all)
          (outcomeOf decoyRegistry ⟨.default, true⟩ decoyedSample .all) before after := by
  have ran (m : FactModel) : analyze decoyRegistry ⟨.default, true⟩ (fun _ => false) m .all =
      .ok (outcomeOf decoyRegistry ⟨.default, true⟩ m .all) :=
    analyze_ok_iff.mpr ⟨fun _ => rfl, rfl⟩
  exact ⟨decoyRegistry_accepted, guardedSample_growsTo, ran _, ran _,
    analyze_score_keeps decoyRegistry_accepted guardedSample_growsTo (Category.mem_all _)
      (Category.mem_all _) rfl rfl (ran _) (ran _)⟩

/-- A further import may make a category score less, by completing a weaker rule that takes precedence. -/
theorem analyze_score_falls :
    decoyRegistry.Accepted ∧ guardedSample.GrowsTo decoyedSample ∧
      ∃ outcome outcome' before after,
        analyze decoyRegistry ⟨.default, true⟩ (fun _ => false) guardedSample (.only .antiDebug) =
          .ok outcome ∧
        analyze decoyRegistry ⟨.default, true⟩ (fun _ => false) decoyedSample (.only .antiDebug) =
          .ok outcome' ∧
        outcome.report.perCategory.lookup .antiDebug = some before ∧
        outcome'.report.perCategory.lookup .antiDebug = some after ∧
        after.maxConfidence < before.maxConfidence := by
  have active : Category.antiDebug ∈ (Analyzer.only .antiDebug).categories := List.mem_singleton_self _
  refine ⟨decoyRegistry_accepted, guardedSample_growsTo, _, _, _, _,
    analyze_ok_iff.mpr ⟨fun _ => rfl, rfl⟩, analyze_ok_iff.mpr ⟨fun _ => rfl, rfl⟩,
    outcome_section rfl active, outcome_section rfl active, ?_⟩
  calc (sectionIn decoyRegistry decoyedSample .antiDebug).maxConfidence
    _ ≤ 24 / 25 := decoyedSample_score
    _ < 241 / 250 := by norm_num
    _ ≤ (sectionIn decoyRegistry guardedSample .antiDebug).maxConfidence := guardedSample_score

end Run

end TechniqueScan
