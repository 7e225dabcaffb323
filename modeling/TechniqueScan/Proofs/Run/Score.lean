import TechniqueScan.Proofs.Correlation.Registered
import TechniqueScan.Proofs.Correlation.Reordering
import TechniqueScan.Proofs.Run.Categories

/-!
The score of a category. With default settings it is the confidence of its strongest finding, so that
the rules that fire and the signatures that hit bound it from both sides.
-/

namespace TechniqueScan

namespace Run

/-- What a run with default settings reports in a category. -/
def sectionIn (registry : Registry Rat) (m : FactModel) (c : Category) : CategoryReport Rat :=
  Report.sectionOf .default c (scoreGroup ReportSettings.default.minConfidence
    (correlate registry m (registry.scan c m)).findings)

variable {registry : Registry Rat} {m m' : FactModel} {c : Category}

theorem mem_scored {f : Finding Rat} :
    f ∈ scoreGroup ReportSettings.default.minConfidence (correlate registry m (registry.scan c m)).findings ↔
      f ∈ deduplicate (correlate registry m (registry.scan c m)).findings := by
  rw [scoreGroup, (rank_perm _).mem_iff, List.mem_filter]
  refine and_iff_left_of_imp fun left => le_of_nonneg ?_
  exact deduplicate_confidence_nonneg (correlate_confidence_nonneg registry m _) f left

theorem mem_sectionIn {f : Finding Rat} : f ∈ (sectionIn registry m c).findings ↔
    f ∈ deduplicate (correlate registry m (registry.scan c m)).findings := by
  have listed : (sectionIn registry m c).findings =
      rank (scoreGroup ReportSettings.default.minConfidence
        (correlate registry m (registry.scan c m)).findings) := rfl
  rw [listed, (rank_perm _).mem_iff, mem_scored]

/-- A category scores no less than any finding that its matches make. -/
theorem le_score (consistent : registry.Consistent) {g : Finding Rat}
    (member : g ∈ (correlate registry m (registry.scan c m)).findings) :
    g.confidence ≤ (sectionIn registry m c).maxConfidence := by
  obtain ⟨g', left, same⟩ := deduplicate_covers member
  obtain ⟨h, origin, key, agrees⟩ := deduplicate_rests left
  have equal := consistent.agrees_of_key_eq m _ h origin g member (key.trans same)
  calc g.confidence
    _ = g'.confidence := equal.confidence.symm.trans agrees.confidence
    _ ≤ (sectionIn registry m c).maxConfidence := Report.le_strongest (mem_scored.mpr left)

theorem ruleConfidence_le_score (consistent : registry.Consistent) {scope : Scope} {r : Rule Rat}
    (fired : r ∈ (selectionAt registry ⟨scope, c⟩ (matchesAt (registry.scan c m) ⟨scope, c⟩)).fired) :
    registry.ruleConfidence r ≤ (sectionIn registry m c).maxConfidence := by
  have made := correlateAt_of_fired registry m ⟨scope, c⟩ fired
  rw [← consistent.correlate_findings] at made
  rw [← consistent.fired_confidence m ⟨scope, c⟩ _ fired]
  exact le_score consistent (List.mem_filter.mp made).1

/-- The score of a category is that of a finding, or 0 where there is none. -/
theorem score_reached (registry : Registry Rat) (m : FactModel) (c : Category) :
    (sectionIn registry m c).maxConfidence = 0 ∨
      ∃ f ∈ (sectionIn registry m c).findings, f.confidence = (sectionIn registry m c).maxConfidence := by
  by_cases empty : scoreGroup ReportSettings.default.minConfidence
      (correlate registry m (registry.scan c m)).findings = []
  · refine .inl ?_
    rw [sectionIn, empty]
    simp [Report.sectionOf, rank, Arithmetic.ofNat]
  · obtain ⟨f, member, same⟩ : ∃ f ∈ scoreGroup _ _,
        f.confidence = (sectionIn registry m c).maxConfidence :=
      Report.strongest_reached empty
    exact .inr ⟨f, mem_sectionIn.mpr (mem_scored.mp member), same⟩

theorem score_nonneg : 0 ≤ (sectionIn registry m c).maxConfidence := by
  rcases score_reached registry m c with none | ⟨f, listed, top⟩
  · exact none.ge
  · rw [← top]
    exact deduplicate_confidence_nonneg (correlate_confidence_nonneg registry m _) f
      (mem_sectionIn.mp listed)

theorem outcome_section {options : RunOptions Rat} (default : options.report = .default) {a : Analyzer}
    (isActive : c ∈ a.categories) :
    (outcomeOf registry options m a).report.perCategory.lookup c = some (sectionIn registry m c) := by
  rw [outcome_lookup registry options m isActive, default]
  rfl

/-! ## Bounds -/

/-- What is reported in a category says what the matches of the category make in its scope. -/
theorem section_origin (consistent : registry.Consistent) {f : Finding Rat}
    (listed : f ∈ (sectionIn registry m c).findings) :
    f.category = c ∧ ∃ g ∈ (correlateAt registry m ⟨f.scope, c⟩
      (matchesAt (registry.scan c m) ⟨f.scope, c⟩)).findings, g.Agrees f := by
  obtain ⟨g, origin, key, agrees⟩ := deduplicate_rests (mem_sectionIn.mp listed)
  have member := (consistent.mem_correlate m).mp origin
  obtain ⟨_, members, _, filled, among⟩ := consistent.correlateAt_made m _ _ member
  obtain ⟨x, inside⟩ := List.exists_mem_of_ne_nil _ filled
  obtain ⟨scanned, here⟩ := (mem_matchesAt _ _ x).mp (among x inside)
  have own : x.category = g.category := congrArg Site.category here
  have category : g.category = c := own.symm.trans (Registry.scan_category scanned)
  have scope : g.scope = f.scope := congrArg FindingKey.scope key
  rw [Finding.site, category, scope] at member
  exact ⟨(congrArg FindingKey.category key).symm.trans category, g, member, agrees⟩

/-- A bound on what its rules and signatures are worth is a bound on the score of a category. -/
theorem score_le (consistent : registry.Consistent) {bound : Rat} (nonneg : 0 ≤ bound)
    (rules : ∀ scope, ∀ r ∈ (selectionAt registry ⟨scope, c⟩
      (matchesAt (registry.scan c m) ⟨scope, c⟩)).fired, registry.ruleConfidence r ≤ bound)
    (alone : ∀ s ∈ registry.signaturesFor c, combineWeights [s.weight] ≤ bound) :
    (sectionIn registry m c).maxConfidence ≤ bound := by
  rcases score_reached registry m c with none | ⟨f, listed, top⟩
  · rw [none]
    exact nonneg
  · obtain ⟨_, g, member, agrees⟩ := section_origin consistent listed
    rw [← top, ← agrees.confidence]
    rcases correlateAt_cases registry m _ member with ⟨r, fired, rfl, _⟩ | ⟨x, here, _, rfl, _⟩
    · rw [consistent.fired_confidence m _ _ fired]
      exact rules f.scope r fired
    · obtain ⟨s, declared, own⟩ := registry.scan_known c m x ((mem_matchesAt _ _ x).mp here).1
      rw [consistent.single_confidence m _ declared own]
      exact alone s declared

end Run

end TechniqueScan
