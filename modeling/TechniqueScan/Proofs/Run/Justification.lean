import TechniqueScan.Proofs.Correlation.Registered
import TechniqueScan.Proofs.Correlation.Reordering
import TechniqueScan.Proofs.Run.Categories
import TechniqueScan.Proofs.Scan.Grounds

/-!
What a reported finding stands on. Merging, filtering and ranking leave findings that rest on
registered signatures and show exactly the facts that these signatures hit in the scope of the finding.
-/

namespace TechniqueScan

namespace Run

variable {α : Type}

/-! ## The facts behind a finding -/

/-- The raw matches that a finding rests on: those of its signatures in its scope. -/
def matchesBehind (registry : Registry α) (m : FactModel) (f : Finding α) : List RawMatch :=
  (registry.scan f.category m).filter fun x =>
    x.location.scope = f.scope ∧ x.signatureId ∈ f.signatures

/-- The indices of the facts that a finding rests on. -/
def factsBehind (registry : Registry α) (m : FactModel) (f : Finding α) : List Nat :=
  (matchesBehind registry m f).flatMap (·.facts)

/-- A well-formed finding that facts of its own scope justify. -/
structure Justified (registry : Registry α) (m : FactModel) (f : Finding α) : Prop
    extends f.WellFormed registry where
  evidence_ne_nil : f.evidence ≠ []
  evidence_ascends : StrictlyAscending f.evidence
  mem_evidence : ∀ line, line ∈ f.evidence ↔
    ∃ i ∈ factsBehind registry m f, ∃ g, m.fact? i = some g ∧ g.describe = line
  /-- No fact of another scope is behind the finding. -/
  present : ∀ i ∈ factsBehind registry m f, ∃ g, m.fact? i = some g ∧ g.scope = f.scope
  lowest : LowestAddress m (factsBehind registry m f) f.address
  whole : f.scope = .whole →
    ∃ s ∈ registry.signaturesFor f.category, f.signatures = [s.id] ∧ s.clauses.length = 1

variable [Arithmetic α] {registry : Registry α} {options : RunOptions α} {m : FactModel} {a : Analyzer}

omit [Arithmetic α] in
theorem mem_matchesBehind {f : Finding α} {x : RawMatch} :
    x ∈ matchesBehind registry m f ↔
      x ∈ registry.scan f.category m ∧ x.location.scope = f.scope ∧ x.signatureId ∈ f.signatures := by
  rw [matchesBehind, List.mem_filter, decide_eq_true_iff]

omit [Arithmetic α] in
theorem mem_factsBehind {f : Finding α} {i : Nat} :
    i ∈ factsBehind registry m f ↔ ∃ x ∈ matchesBehind registry m f, i ∈ x.facts := List.mem_flatMap

/-- What a report lists is left of the findings of an active category. -/
theorem mem_outcome_findings {f : Finding α}
    (listed : f ∈ (outcomeOf registry options m a).report.findings) :
    f.category ∈ a.categories ∧ f ∈ deduplicate (correlated registry m a f.category) := by
  have isActive : f.category ∈ a.categories :=
    Report.category_active options.report a.categories a.title m.binaryId _ listed
  have member : f ∈ (outcomeOf registry options m a).report.findings.filter
      fun g => g.category = f.category := List.mem_filter.mpr ⟨listed, decide_eq_true rfl⟩
  rw [outcome_findings_filter registry options m a isActive] at member
  have kept := (rank_perm _).mem_iff.mp (Report.mem_sectionOf member)
  exact ⟨isActive, (List.mem_filter.mp kept).1⟩

/-! ## Merged findings -/

section Merged

variable {g : Finding α} (isActive : g.category ∈ a.categories)
  (left : g ∈ deduplicate (correlated registry m a g.category))

/-- The findings that are merged into one. -/
def mergedInto (registry : Registry α) (m : FactModel) (a : Analyzer) (g : Finding α) : List (Finding α) :=
  (correlated registry m a g.category).filter fun f => f.key = g.key

theorem mem_mergedInto (consistent : registry.Consistent) {f : Finding α} :
    f ∈ mergedInto registry m a g ↔
      f ∈ (correlateAt registry m ⟨g.scope, g.category⟩
        (matchesAt (rawMatches registry a.categories m) ⟨g.scope, g.category⟩)).findings ∧
      f.key = g.key := by
  rw [mergedInto, List.mem_filter, decide_eq_true_iff]
  refine and_congr_left fun same => ?_
  have scope : f.scope = g.scope := congrArg FindingKey.scope same
  rw [mem_correlated_iff m a consistent, scope]

include isActive

/-- A finding that is merged is made of matches behind what it is merged into. -/
theorem made_of_matchesBehind (consistent : registry.Consistent) {f : Finding α}
    (merged : f ∈ mergedInto registry m a g) :
    ∃ rule members, f = findingOf registry m ⟨g.scope, g.category⟩ rule members ∧ members ≠ [] ∧
      ∀ x ∈ members, x ∈ matchesBehind registry m g := by
  obtain ⟨member, same⟩ := (mem_mergedInto consistent).mp merged
  obtain ⟨rule, members, made, filled, here⟩ := consistent.correlateAt_made m _ _ member
  refine ⟨rule, members, made, filled, ?_⟩
  intro x inside
  obtain ⟨scanned, scope⟩ := (mem_rawMatches_site registry m a isActive g.scope x).mp (here x inside)
  refine mem_matchesBehind.mpr ⟨scanned, scope, (Finding.perm_of_key_eq same).mem_iff.mp ?_⟩
  rw [made]
  exact (mem_findingOf_signatures ..).mpr ⟨x, inside, rfl⟩

include left

/-- Every match behind a merged finding makes one of the findings that are merged. -/
theorem mergedInto_covers (consistent : registry.Consistent) {x : RawMatch}
    (behind : x ∈ matchesBehind registry m g) :
    ∃ rule members, findingOf registry m ⟨g.scope, g.category⟩ rule members ∈ mergedInto registry m a g ∧
      x ∈ members := by
  obtain ⟨scanned, scope, listed⟩ := mem_matchesBehind.mp behind
  have here := (mem_rawMatches_site registry m a isActive g.scope x).mpr ⟨scanned, scope⟩
  obtain ⟨rule, members, member, inside, _⟩ := correlateAt_covers registry m ⟨g.scope, g.category⟩ here
  refine ⟨rule, members, (mem_mergedInto consistent).mpr ⟨member, ?_⟩, inside⟩
  -- It shares the signature of the match with a finding that has the key of the merged one.
  obtain ⟨f, origin, key, signatures⟩ := merged_origin consistent left
  have shared := (mem_findingOf_signatures registry m ⟨g.scope, g.category⟩ rule members _).mpr
    ⟨x, inside, rfl⟩
  rw [← signatures] at listed
  exact (consistent.key_eq_of_shared m _ _ member origin shared listed).trans key

omit isActive in
theorem mergedInto_sumsUp : SumsUp (mergedInto registry m a g) g := by
  refine deduplicate_sumsUp ?_ left
  intro f member
  exact correlate_evidence_ascends registry m _ f (List.mem_filter.mp member).1

theorem mem_merged_evidence (consistent : registry.Consistent) (line : String) :
    line ∈ g.evidence ↔
      ∃ i ∈ factsBehind registry m g, ∃ h, m.fact? i = some h ∧ h.describe = line := by
  rw [(mergedInto_sumsUp left).mem_evidence]
  constructor
  · rintro ⟨f, merged, shown⟩
    obtain ⟨rule, members, rfl, _, behind⟩ := made_of_matchesBehind isActive consistent merged
    obtain ⟨x, inside, i, listed, h⟩ := (mem_findingOf_evidence ..).mp shown
    exact ⟨i, mem_factsBehind.mpr ⟨x, behind x inside, listed⟩, h⟩
  · rintro ⟨i, behind, h⟩
    obtain ⟨x, behind, listed⟩ := mem_factsBehind.mp behind
    obtain ⟨rule, members, merged, inside⟩ := mergedInto_covers isActive left consistent behind
    exact ⟨_, merged, (mem_findingOf_evidence ..).mpr ⟨x, inside, i, listed, h⟩⟩

theorem merged_lowest (consistent : registry.Consistent)
    (grounded : ∀ x ∈ registry.scan g.category m, GroundedAt m x.location x.facts) :
    LowestAddress m (factsBehind registry m g) g.address := by
  have sums := mergedInto_sumsUp left
  constructor
  · obtain ⟨f, merged, reached⟩ := sums.reached
    obtain ⟨rule, members, rfl, filled, behind⟩ := made_of_matchesBehind isActive consistent merged
    obtain ⟨x, inside, least⟩ := (lowestAddress_lowest filled).1
    obtain ⟨i, listed, h, found, address⟩ :=
      (grounded x (mem_matchesBehind.mp (behind x inside)).1).lowest.1
    exact ⟨i, mem_factsBehind.mpr ⟨x, behind x inside, listed⟩, h, found,
      address.trans (least.trans reached)⟩
  · intro i behind h found
    obtain ⟨x, behind, listed⟩ := mem_factsBehind.mp behind
    obtain ⟨rule, members, merged, inside⟩ := mergedInto_covers isActive left consistent behind
    calc g.address
      _ ≤ lowestAddress members := sums.lowest _ merged
      _ ≤ x.location.address := (lowestAddress_lowest (List.ne_nil_of_mem inside)).2 x inside
      _ ≤ h.location.address :=
        (grounded x (mem_matchesBehind.mp behind).1).lowest.2 i listed h found

theorem merged_wellFormed (consistent : registry.Consistent) : g.WellFormed registry := by
  obtain ⟨f, origin, key, agrees⟩ := deduplicate_rests left
  obtain ⟨member, _⟩ := (mem_mergedInto consistent).mp
    (List.mem_filter.mpr ⟨origin, decide_eq_true key⟩)
  refine (consistent.correlateAt_wellFormed m _ _ member ?_).of_agrees agrees
    (congrArg FindingKey.category key)
  intro x here
  exact registry.scan_known g.category m x
    ((mem_rawMatches_site registry m a isActive g.scope x).mp here).1

theorem merged_whole (consistent : registry.Consistent) (whole : g.scope = .whole) :
    ∃ x ∈ registry.scan g.category m, x.location.scope = .whole ∧ g.signatures = [x.signatureId] := by
  obtain ⟨f, origin, _, signatures⟩ := merged_origin consistent left
  obtain ⟨x, here, only⟩ := consistent.correlateAt_whole m _ _ origin whole
  obtain ⟨scanned, scope⟩ := (mem_rawMatches_site registry m a isActive g.scope x).mp here
  exact ⟨x, scanned, scope.trans whole, signatures.symm.trans only⟩

end Merged

/-! ## Reported findings -/

/-- Every finding that a run reports is well formed, and facts of its own scope justify it. -/
theorem analyze_justified (accepted : registry.Accepted) {binaryId : String} {facts : List Fact}
    {stopped : Stage → Bool} {outcome : RunOutcome α}
    (ran : analyze registry options stopped (.ofFacts binaryId facts) a = .ok outcome) :
    ∀ f ∈ outcome.report.findings, Justified registry (.ofFacts binaryId facts) f := by
  obtain ⟨_, rfl⟩ := analyze_ok_iff.mp ran
  intro f listed
  have consistent := accepted.consistent
  obtain ⟨isActive, left⟩ := mem_outcome_findings listed
  have grounded : ∀ x ∈ registry.scan f.category (.ofFacts binaryId facts),
      GroundedAt (.ofFacts binaryId facts) x.location x.facts := fun x => consistent.scan_grounded
  have shows := mem_merged_evidence isActive left consistent
  have lowest := merged_lowest isActive left consistent grounded
  refine { merged_wellFormed isActive left consistent with
    evidence_ne_nil := ?_
    evidence_ascends := (mergedInto_sumsUp left).ascends
    mem_evidence := shows
    present := ?_
    lowest := lowest
    whole := ?_ }
  · obtain ⟨i, behind, g, found, _⟩ := lowest.1
    exact List.ne_nil_of_mem ((shows g.describe).mpr ⟨i, behind, g, found, rfl⟩)
  · intro i behind
    obtain ⟨x, behind, inside⟩ := mem_factsBehind.mp behind
    obtain ⟨scanned, scope, _⟩ := mem_matchesBehind.mp behind
    obtain ⟨g, found, own⟩ := (grounded x scanned).present i inside
    exact ⟨g, found, own.trans scope⟩
  · intro whole
    obtain ⟨x, scanned, scope, only⟩ := merged_whole isActive left consistent whole
    obtain ⟨s, listed, same, single⟩ := consistent.scan_whole scanned scope
    exact ⟨s, listed, by rw [only, same], single⟩

theorem analyze_justified_debugger :
    Registry.debuggerRegistry.Accepted ∧
      analyze Registry.debuggerRegistry ⟨.default, true⟩ (fun _ => false) guardedSample .all =
        .ok (outcomeOf Registry.debuggerRegistry ⟨.default, true⟩ guardedSample .all) ∧
      (outcomeOf Registry.debuggerRegistry ⟨.default, true⟩ guardedSample .all).report.findings ≠ [] ∧
      ∀ f ∈ (outcomeOf Registry.debuggerRegistry ⟨.default, true⟩ guardedSample .all).report.findings,
        Justified Registry.debuggerRegistry guardedSample f := by
  have accepted := Registry.debuggerRegistry_accepted
  have ran : analyze Registry.debuggerRegistry ⟨.default, true⟩ (fun _ => false) guardedSample .all =
      .ok (outcomeOf Registry.debuggerRegistry ⟨.default, true⟩ guardedSample .all) :=
    analyze_ok_iff.mpr ⟨fun _ => rfl, rfl⟩
  refine ⟨accepted, ran, ?_, analyze_justified accepted ran⟩
  -- What the first signature hits is accounted for.
  have accounts := outcome_accounts accepted.consistent rfl
    (dropsNone_default Registry.debuggerRegistry guardedSample .all)
  obtain ⟨x, scanned, _⟩ : ∃ x ∈ Registry.debuggerRegistry.scan .antiDebug guardedSample,
      x.site = ⟨.procedure "main", .antiDebug⟩ ∧ x.signatureId = Registry.debuggerDraft.signatures[0].id :=
    (accepted.consistent.occurs_iff (List.mem_filter.mpr ⟨List.mem_cons_self, rfl⟩) rfl
      (fun _ => Pattern.noConfusion) _).mpr (by decide +kernel)
  obtain ⟨f, single, _⟩ := accounts.once .antiDebug (Category.mem_all _) x scanned
  have listed := List.mem_singleton_self f
  rw [← single] at listed
  exact List.ne_nil_of_mem (List.mem_filter.mp listed).1

end Run

end TechniqueScan
