import TechniqueScan.Proofs.Scoring.Ranking
import TechniqueScan.Report

/-!
The sections of a report. Each active category has one section, and it depends on the findings of
that category alone.
-/

namespace TechniqueScan

namespace Report

variable {α : Type} [Arithmetic α]

theorem mem_sectionOf {settings : ReportSettings α} {c : Category} {findings : List (Finding α)}
    {f : Finding α} (member : f ∈ (sectionOf settings c findings).findings) : f ∈ findings := by
  refine (rank_perm findings).mem_iff.mp ?_
  unfold sectionOf at member
  dsimp only at member
  split at member
  · exact List.mem_of_mem_take member
  · exact member

variable (settings : ReportSettings α) (active : List Category) (title binaryId : String)
  (findings : List (Finding α))

theorem build_perCategory : (build settings active title binaryId findings).perCategory =
    (Category.all.filter active.contains).map fun c =>
      (c, sectionOf settings c (findings.filter fun f => f.category = c)) :=
  List.map_map ..

theorem mem_active {c : Category} : c ∈ Category.all.filter active.contains ↔ c ∈ active := by
  simp [Category.mem_all]

/-- The section of an active category is made of its findings. -/
theorem build_lookup {c : Category} (isActive : c ∈ active) :
    (build settings active title binaryId findings).perCategory.lookup c =
      some (sectionOf settings c (findings.filter fun f => f.category = c)) := by
  rw [build_perCategory]
  exact lookup_map_of_mem (fun c => sectionOf settings c (findings.filter fun f => f.category = c))
    ((mem_active active).mpr isActive)

/-- A report lists findings of active categories only. -/
theorem category_active {f : Finding α}
    (listed : f ∈ (build settings active title binaryId findings).findings) : f.category ∈ active := by
  rw [Report.findings, build_perCategory, List.flatMap_map, List.mem_flatMap] at listed
  obtain ⟨c, isActive, member⟩ := listed
  have own : f.category = c := of_decide_eq_true (List.mem_filter.mp (mem_sectionOf member)).2
  exact own ▸ (mem_active active).mp isActive

/-- The findings that a report lists in an active category are those of its section. -/
theorem build_findings_filter {c : Category} (isActive : c ∈ active) :
    (build settings active title binaryId findings).findings.filter (fun f => f.category = c) =
      (sectionOf settings c (findings.filter fun f => f.category = c)).findings := by
  rw [Report.findings, build_perCategory, List.flatMap_map,
    flatMap_filter_key ?_ (Category.all_nodup.filter _), if_pos ((mem_active active).mpr isActive)]
  intro c' _ f member
  simpa using (List.mem_filter.mp (mem_sectionOf member)).2

/-! ## The strongest finding -/

theorem strongest_reached {settings : ReportSettings α} {c : Category} {findings : List (Finding α)}
    (filled : findings ≠ []) :
    ∃ f ∈ findings, f.confidence = (sectionOf settings c findings).maxConfidence := by
  have perm := rank_perm findings
  unfold sectionOf
  dsimp only
  cases ranked : rank findings with
  | nil =>
    rw [ranked] at perm
    exact (filled (List.nil_perm.mp perm)).elim
  | cons g rest =>
    rw [ranked] at perm
    exact ⟨g, perm.mem_iff.mp List.mem_cons_self, rfl⟩

/-- No finding of a section exceeds the one that is listed first. -/
theorem le_strongest {settings : ReportSettings Rat} {c : Category} {findings : List (Finding Rat)}
    {f : Finding Rat} (member : f ∈ findings) :
    f.confidence ≤ (sectionOf settings c findings).maxConfidence := by
  have listed := (rank_perm findings).mem_iff.mpr member
  have ordered := rank_pairwise findings
  unfold sectionOf
  dsimp only
  cases ranked : rank findings with
  | nil =>
    rw [ranked] at listed
    cases listed
  | cons g rest =>
    rw [ranked] at listed ordered
    rcases List.mem_cons.mp listed with rfl | later
    · exact le_refl _
    · have before := (List.pairwise_cons.mp ordered).1 f later
      exact compareTotal_isLE_iff.mp (Finding.confidence_isLE before)

end Report

end TechniqueScan
