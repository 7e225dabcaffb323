import TechniqueScan.Proofs.Confidence
import TechniqueScan.Proofs.Correlation.Findings
import TechniqueScan.Proofs.Report
import TechniqueScan.Run

/-!
From scanning to the report. A run that is not stopped has one outcome, and in its report every
signature that was found in a scope stands behind exactly one finding of that scope.
-/

namespace TechniqueScan

namespace Run

variable {α : Type} [Arithmetic α]

/-! ## The outcome -/

/-- The outcome of a run that is not stopped. -/
def outcomeOf (registry : Registry α) (options : RunOptions α) (m : FactModel) (a : Analyzer) :
    RunOutcome α :=
  let correlation := correlate registry m (rawMatches registry a.categories m)
  { report := { Report.build options.report a.categories a.title m.binaryId
      ((scoreAll options.report.minConfidence correlation.findings options.parallel).flatMap (·.2)) with
        facts := m.counts }
    warnings := missingSignatures registry a.categories ++ correlation.conflicts.map .ruleConflict }

omit [Arithmetic α] in
/-- Whether categories are scanned side by side does not matter. -/
theorem rawMatches_eq (registry : Registry α) (active : List Category) (m : FactModel) (parallel : Bool) :
    rawMatches registry active m parallel = active.flatMap fun c => registry.scan c m := by
  rw [rawMatches, mapEach_eq, List.flatMap_def]

omit [Arithmetic α] in
theorem enter_bind_ok_iff {stopped : Stage → Bool} {next : Stage} {β : Type}
    {rest : Unit → Except RunError β} {b : β} :
    (enter stopped next >>= rest) = .ok b ↔ stopped next = false ∧ rest () = .ok b := by
  unfold enter
  cases stopped next with
  | true => simp [bind, Except.bind]
  | false => simp [bind, Except.bind]

/-- A run that succeeds was stopped nowhere, and then its outcome does not depend on how. -/
theorem analyze_ok_iff {registry : Registry α} {options : RunOptions α} {stopped : Stage → Bool}
    {m : FactModel} {a : Analyzer} {outcome : RunOutcome α} :
    analyze registry options stopped m a = .ok outcome ↔
      (∀ next, stopped next = false) ∧ outcomeOf registry options m a = outcome := by
  have scanned : rawMatches registry a.categories m options.parallel = rawMatches registry a.categories m := by
    rw [rawMatches_eq, rawMatches_eq]
  simp only [analyze, finish, scanned, enter_bind_ok_iff, Except.ok.injEq]
  constructor
  · rintro ⟨scanning, correlating, scoring, reporting, same⟩
    refine ⟨?_, same⟩
    intro next
    cases next with
    | scanning => exact scanning
    | correlating => exact correlating
    | scoring => exact scoring
    | reporting => exact reporting
  · rintro ⟨free, same⟩
    exact ⟨free _, free _, free _, free _, same⟩

/-! ## What reaches the report -/

variable (registry : Registry α) (options : RunOptions α) (m : FactModel) (a : Analyzer)

omit [Arithmetic α] in
theorem mem_rawMatches_site {c : Category} (isActive : c ∈ a.categories) (scope : Scope) (x : RawMatch) :
    x ∈ matchesAt (rawMatches registry a.categories m) ⟨scope, c⟩ ↔
      x ∈ registry.scan c m ∧ x.location.scope = scope := by
  rw [mem_matchesAt, rawMatches_eq, List.mem_flatMap]
  constructor
  · rintro ⟨⟨c', _, scanned⟩, same⟩
    have own : x.category = c := congrArg Site.category same
    rw [Registry.scan_category scanned] at own
    exact ⟨own ▸ scanned, congrArg Site.scope same⟩
  · rintro ⟨scanned, inside⟩
    refine ⟨⟨c, isActive, scanned⟩, ?_⟩
    rw [RawMatch.site, inside, Registry.scan_category scanned]

/-- The findings of a category before they are merged. -/
def correlated (c : Category) : List (Finding α) :=
  (correlate registry m (rawMatches registry a.categories m)).findings.filter fun f => f.category = c

theorem outcome_findings_filter {c : Category} (isActive : c ∈ a.categories) :
    (outcomeOf registry options m a).report.findings.filter (fun f => f.category = c) =
      (Report.sectionOf options.report c
        (scoreGroup options.report.minConfidence (correlated registry m a c))).findings := by
  have listed := Report.build_findings_filter options.report a.categories a.title m.binaryId
    ((scoreAll options.report.minConfidence
      (correlate registry m (rawMatches registry a.categories m)).findings options.parallel).flatMap
        (·.2)) isActive
  rwa [scoreAll_filter] at listed

/-- Where nothing is dropped or cut off, the merged findings of a category are those listed. -/
theorem outcome_findings_perm {c : Category} (isActive : c ∈ a.categories)
    (listsAll : options.report.topN = none)
    (dropsNone : ∀ f ∈ deduplicate (correlated registry m a c),
      Arithmetic.le options.report.minConfidence f.confidence) :
    ((outcomeOf registry options m a).report.findings.filter fun f => f.category = c).Perm
      (deduplicate (correlated registry m a c)) := by
  rw [outcome_findings_filter registry options m a isActive]
  have kept : (deduplicate (correlated registry m a c)).filter (fun f =>
      Arithmetic.le options.report.minConfidence f.confidence) = deduplicate (correlated registry m a c) :=
    List.filter_eq_self.mpr dropsNone
  simp only [Report.sectionOf, listsAll, scoreGroup, kept]
  exact (rank_perm _).trans (rank_perm _)

/-- The least confidence asked for drops no finding of an active category. -/
def DropsNone : Prop :=
  ∀ c ∈ a.categories, ∀ f ∈ deduplicate (correlated registry m a c),
    Arithmetic.le options.report.minConfidence f.confidence

/-- A report that lists every signature found in a scope in exactly one finding of that scope, and
there once, and lists no other signature there. -/
structure AccountsForMatches (report : Report α) : Prop where
  once : ∀ c ∈ a.categories, ∀ x ∈ registry.scan c m, ∃ f,
    (report.findings.filter fun f =>
        f.category = c ∧ f.scope = x.location.scope ∧ x.signatureId ∈ f.signatures) = [f] ∧
      f.signatures.count x.signatureId = 1
  only : ∀ c ∈ a.categories, ∀ f ∈ report.findings, f.category = c → ∀ id ∈ f.signatures,
    ∃ x ∈ registry.scan c m, x.location.scope = f.scope ∧ x.signatureId = id

theorem mem_correlated_iff {registry : Registry α} (consistent : registry.Consistent) {c : Category}
    (f : Finding α) : f ∈ correlated registry m a c ↔
      f ∈ (correlateAt registry m ⟨f.scope, c⟩
        (matchesAt (rawMatches registry a.categories m) ⟨f.scope, c⟩)).findings := by
  rw [← consistent.correlate_findings, correlated, List.mem_filter, List.mem_filter]
  simp [Finding.site]

variable {registry options m a}

/-- A merged finding rests on the signatures of some finding of its place. -/
theorem merged_origin (consistent : registry.Consistent) {c : Category} {g : Finding α}
    (left : g ∈ deduplicate (correlated registry m a c)) :
    ∃ f ∈ (correlateAt registry m ⟨g.scope, c⟩
        (matchesAt (rawMatches registry a.categories m) ⟨g.scope, c⟩)).findings,
      f.key = g.key ∧ f.signatures = g.signatures := by
  obtain ⟨f, origin, same, agrees⟩ := deduplicate_rests left
  have scope : f.scope = g.scope := congrArg FindingKey.scope same
  rw [mem_correlated_iff m a consistent, scope] at origin
  exact ⟨f, origin, same, agrees.signatures⟩

/-- Merging leaves exactly one finding of a scope for each signature found there. -/
theorem merged_once (consistent : registry.Consistent) {c : Category} (isActive : c ∈ a.categories)
    {x : RawMatch} (scanned : x ∈ registry.scan c m) :
    ∃ g, ((deduplicate (correlated registry m a c)).filter fun f =>
        f.scope = x.location.scope ∧ x.signatureId ∈ f.signatures) = [g] ∧
      g.signatures.count x.signatureId = 1 := by
  have here := (mem_rawMatches_site registry m a isActive x.location.scope x).mpr ⟨scanned, rfl⟩
  obtain ⟨f, member, inside⟩ :=
    (mem_correlateAt_signatures registry m ⟨x.location.scope, c⟩ _ _).mpr ⟨x, here, rfl⟩
  have scope : f.scope = x.location.scope :=
    congrArg Site.scope (correlateAt_findings_site registry m _ _ f member)
  have before : f ∈ correlated registry m a c := by
    rw [mem_correlated_iff m a consistent, scope]
    exact member
  obtain ⟨g, left, same⟩ := deduplicate_covers before
  have scope' : g.scope = x.location.scope := (congrArg FindingKey.scope same).trans scope
  have inside' : x.signatureId ∈ g.signatures := (Finding.perm_of_key_eq same).mem_iff.mpr inside
  refine ⟨g, filter_eq_singleton (deduplicate_keys_nodup _) left (decide_eq_true ⟨scope', inside'⟩) ?_, ?_⟩
  · -- Another finding left there stems from one that shares the signature, so the keys are equal.
    intro h left' kind
    obtain ⟨scope'', inside''⟩ := of_decide_eq_true kind
    obtain ⟨f', member', same', signatures'⟩ := merged_origin consistent left'
    rw [scope''] at member'
    rw [← signatures'] at inside''
    rw [← same', same]
    exact consistent.key_eq_of_shared m _ _ member' member inside'' inside
  · obtain ⟨f', member', _, signatures'⟩ := merged_origin consistent left
    rw [← signatures'] at inside' ⊢
    exact List.count_eq_one_of_mem (correlateAt_signatures_nodup registry m _ member') inside'

theorem outcome_accounts (consistent : registry.Consistent) (listsAll : options.report.topN = none)
    (dropsNone : DropsNone registry options m a) :
    AccountsForMatches registry m a (outcomeOf registry options m a).report := by
  have listed {c : Category} (isActive : c ∈ a.categories) :=
    outcome_findings_perm registry options m a isActive listsAll (dropsNone c isActive)
  constructor
  · intro c isActive x scanned
    obtain ⟨g, single, counted⟩ := merged_once consistent isActive scanned
    refine ⟨g, ?_, counted⟩
    have perm := (listed isActive).filter fun f =>
      decide (f.scope = x.location.scope ∧ x.signatureId ∈ f.signatures)
    rw [single, List.perm_singleton, List.filter_filter] at perm
    rw [← perm]
    congr 1
    funext f
    rw [← Bool.decide_and, decide_eq_decide, and_comm]
  · intro c isActive f member own id inside
    have left := (listed isActive).mem_iff.mp (List.mem_filter.mpr ⟨member, decide_eq_true own⟩)
    obtain ⟨f', member', _, signatures⟩ := merged_origin consistent left
    rw [← signatures] at inside
    obtain ⟨x, here, same⟩ := (mem_correlateAt_signatures registry m _ _ _).mp ⟨f', member', inside⟩
    obtain ⟨scanned, scope⟩ := (mem_rawMatches_site registry m a isActive _ _).mp here
    exact ⟨x, scanned, scope, same⟩

/-- A run that is not stopped succeeds, and where nothing is dropped or cut off, its report accounts
for the matches of every active category. -/
theorem analyze_accounts (accepted : registry.Accepted) (listsAll : options.report.topN = none)
    (dropsNone : DropsNone registry options m a) :
    (∃ outcome, analyze registry options (fun _ => false) m a = .ok outcome) ∧
      ∀ stopped outcome, analyze registry options stopped m a = .ok outcome →
        AccountsForMatches registry m a outcome.report := by
  constructor
  · exact ⟨_, analyze_ok_iff.mpr ⟨fun _ => rfl, rfl⟩⟩
  · intro stopped outcome ran
    obtain ⟨_, rfl⟩ := analyze_ok_iff.mp ran
    exact outcome_accounts accepted.consistent listsAll dropsNone

theorem correlate_confidence_nonneg (registry : Registry Rat) (m : FactModel) (raw : List RawMatch) :
    ∀ f ∈ (correlate registry m raw).findings, 0 ≤ f.confidence := by
  intro f member
  rw [correlate_findings_eq] at member
  obtain ⟨site, _, inside⟩ := List.mem_flatMap.mp member
  rcases correlateAt_cases registry m site inside with ⟨r, _, rfl, _⟩ | ⟨x, _, _, rfl, _⟩
  · exact confidenceFor_nonneg _ _
  · exact confidenceFor_nonneg _ _

theorem deduplicate_confidence_nonneg {findings : List (Finding Rat)}
    (nonneg : ∀ f ∈ findings, 0 ≤ f.confidence) : ∀ g ∈ deduplicate findings, 0 ≤ g.confidence := by
  intro g left
  obtain ⟨f, before, _, agrees⟩ := deduplicate_rests left
  rw [← agrees.confidence]
  exact nonneg f before

theorem le_of_nonneg {x : Rat} (nonneg : 0 ≤ x) :
    Arithmetic.le ReportSettings.default.minConfidence x := by
  simp [ReportSettings.default, Arithmetic.le, Arithmetic.isNaN, Arithmetic.lt, Arithmetic.ofNat, nonneg]

/-- In exact arithmetic no confidence is less than 0, so nothing is dropped by default. -/
theorem dropsNone_default (registry : Registry Rat) (m : FactModel) (a : Analyzer) :
    DropsNone registry ⟨.default, true⟩ m a := by
  intro c _ g left
  refine le_of_nonneg (deduplicate_confidence_nonneg ?_ g left)
  intro f before
  exact correlate_confidence_nonneg registry m _ f (List.mem_filter.mp before).1

/-- A binary that imports what both signatures of the small catalogue ask for. -/
def guardedSample : FactModel :=
  .ofFacts "sample" [⟨⟨.procedure "main", 12⟩, .symbol "ptrace" .imported, none⟩,
    ⟨⟨.procedure "main", 16⟩, .symbol "sysctl" .imported, none⟩]

theorem analyze_accounts_debugger :
    Registry.debuggerRegistry.Accepted ∧
      DropsNone Registry.debuggerRegistry ⟨.default, true⟩ guardedSample .all ∧
      (∃ outcome, analyze Registry.debuggerRegistry ⟨.default, true⟩ (fun _ => false)
        guardedSample .all = .ok outcome) ∧
      ∀ stopped outcome, analyze Registry.debuggerRegistry ⟨.default, true⟩ stopped
          guardedSample .all = .ok outcome →
        AccountsForMatches Registry.debuggerRegistry guardedSample .all outcome.report :=
  ⟨Registry.debuggerRegistry_accepted, dropsNone_default _ _ _,
    analyze_accounts Registry.debuggerRegistry_accepted rfl (dropsNone_default _ _ _)⟩

end Run

end TechniqueScan
