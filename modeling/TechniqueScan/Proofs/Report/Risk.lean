import Mathlib.Algebra.BigOperators.Ring.List
import Mathlib.Algebra.Order.BigOperators.Group.List
import TechniqueScan.Proofs.Report

/-!
The overall risk of a report. Before it is rounded it is the mean of the scores of the active categories,
each counted as often as it weighs: it lies between the least and the greatest of them, more findings never
lower it, and what weighs nothing has no part in it.
-/

namespace TechniqueScan

open Arithmetic hiding max

/-- Levels in the order in which they are listed, the least serious one first. -/
instance : LE RiskLevel := ⟨fun l l' => l.ctorIdx ≤ l'.ctorIdx⟩

theorem RiskLevel.ofScore_ctorIdx (x : Rat) : (ofScore x).ctorIdx =
    if x ≤ 0 then 0 else if x < 25 then 1 else if x < 50 then 2 else if x < 75 then 3 else 4 := by
  have unfolded : ofScore x =
      if x ≤ 0 then none else if x < 25 then low else if x < 50 then medium
        else if x < 75 then high else critical := by
    simp [ofScore, le, isNaN, lt, Arithmetic.ofNat]
  rw [unfolded]
  split_ifs <;> rfl

theorem RiskLevel.ofScore_mono {x y : Rat} (atMost : x ≤ y) : ofScore x ≤ ofScore y := by
  show (ofScore x).ctorIdx ≤ (ofScore y).ctorIdx
  rw [ofScore_ctorIdx, ofScore_ctorIdx]
  split_ifs <;> linarith

theorem ReportSettings.weightFor_eq (settings : ReportSettings Rat) (c : Category) :
    settings.weightFor c = max ((settings.categoryWeights.lookup c).getD 1) 0 := by
  rw [weightFor, Arithmetic.max, max_comm, max_def]
  simp [isNaN, lt, Arithmetic.ofNat, ← not_lt]

theorem ReportSettings.weightFor_nonneg (settings : ReportSettings Rat) (c : Category) :
    0 ≤ settings.weightFor c := by
  rw [weightFor_eq]
  exact le_max_right _ _

namespace Report

/-! ## Weighted means -/

/-- The mean of some scores in hundredths, each with its weight before it. -/
def weightedMean (weighted : List (Rat × Rat)) : Rat :=
  100 * (weighted.map fun e => e.1 * e.2).sum / (weighted.map (·.1)).sum

theorem foldl_add_eq {β : Type} (number : β → Rat) (items : List β) (start : Rat) :
    items.foldl (fun total b => add total (number b)) start = start + (items.map number).sum := by
  induction items generalizing start with
  | nil => simp
  | cons b rest ih =>
    rw [List.foldl_cons, ih, List.map_cons, List.sum_cons, ← add_assoc]
    rfl

theorem riskScore_eq (weighted : List (Rat × Rat)) :
    riskScore weighted =
      if 0 < (weighted.map (·.1)).sum then roundTo 2 (weightedMean weighted) else 0 := by
  have zero : (Arithmetic.ofNat 0 : Rat) = 0 := Nat.cast_zero
  have total : weighted.foldl (fun t (weight, _) => add t weight) (Arithmetic.ofNat 0) =
      (weighted.map (·.1)).sum := (foldl_add_eq Prod.fst weighted _).trans (by rw [zero, zero_add])
  have sum : weighted.foldl (fun t (weight, score) => add t (mul weight score)) (Arithmetic.ofNat 0) =
      (weighted.map fun e => e.1 * e.2).sum :=
    (foldl_add_eq (fun e => e.1 * e.2) weighted _).trans (by rw [zero, zero_add])
  rw [riskScore, total, sum, zero]
  simp [lt, weightedMean, mul, div, Arithmetic.ofNat]

variable {weighted : List (Rat × Rat)} (nonneg : ∀ e ∈ weighted, 0 ≤ e.1)

include nonneg

theorem totalWeight_pos_iff : 0 < (weighted.map (·.1)).sum ↔ ∃ e ∈ weighted, 0 < e.1 := by
  constructor
  · intro positive
    by_contra none
    push Not at none
    refine positive.ne' (List.sum_eq_zero ?_)
    intro w listed
    obtain ⟨e, member, rfl⟩ := List.mem_map.mp listed
    exact le_antisymm (none e member) (nonneg e member)
  · rintro ⟨e, member, positive⟩
    exact positive.trans_le
      (List.single_le_sum (List.forall_mem_map.mpr nonneg) _ (List.mem_map_of_mem member))

/-- If something weighs, the mean does not fall below all scores that weigh. -/
theorem exists_le_weightedMean (weighs : ∃ e ∈ weighted, 0 < e.1) :
    ∃ e ∈ weighted, 0 < e.1 ∧ 100 * e.2 ≤ weightedMean weighted := by
  have positive := (totalWeight_pos_iff nonneg).mpr weighs
  by_contra below
  push Not at below
  have more : (weighted.map fun e => e.1 * weightedMean weighted).sum <
      (weighted.map fun e => 100 * (e.1 * e.2)).sum := by
    refine List.sum_lt_sum _ _ ?_ ?_
    · intro e member
      rcases (nonneg e member).eq_or_lt with zero | weighs
      · simp [← zero]
      · nlinarith [below e member weighs]
    · obtain ⟨e, member, weighs⟩ := weighs
      exact ⟨e, member, by nlinarith [below e member weighs]⟩
  rw [List.sum_map_mul_right, List.sum_map_mul_left, weightedMean, mul_div_cancel₀ _ positive.ne'] at more
  exact lt_irrefl _ more

omit nonneg in
theorem weightedMean_neg : weightedMean (weighted.map fun e => (e.1, -e.2)) = -weightedMean weighted := by
  have negated : (weighted.map fun e => e.1 * -e.2) = weighted.map fun e => -1 * (e.1 * e.2) :=
    List.map_congr_left fun e _ => by ring
  rw [weightedMean, weightedMean, List.map_map, List.map_map, ← neg_div, ← mul_neg]
  show 100 * (weighted.map fun e => e.1 * -e.2).sum / (weighted.map (·.1)).sum = _
  rw [negated, List.sum_map_mul_left, neg_one_mul]

/-- If something weighs, the mean does not rise above all scores that weigh. -/
theorem exists_weightedMean_le (weighs : ∃ e ∈ weighted, 0 < e.1) :
    ∃ e ∈ weighted, 0 < e.1 ∧ weightedMean weighted ≤ 100 * e.2 := by
  have nonneg' : ∀ e ∈ weighted.map fun e => (e.1, -e.2), 0 ≤ e.1 := List.forall_mem_map.mpr nonneg
  obtain ⟨e, member, positive⟩ := weighs
  obtain ⟨_, reached, positive, atMost⟩ :=
    exists_le_weightedMean nonneg' ⟨_, List.mem_map_of_mem member, positive⟩
  obtain ⟨e, member, rfl⟩ := List.mem_map.mp reached
  rw [weightedMean_neg] at atMost
  exact ⟨e, member, positive, by linarith⟩

/-- Between scores from 0 to 1 the risk stays within a hundred hundredths. -/
theorem riskScore_bounds (unit : ∀ e ∈ weighted, 0 < e.1 → 0 ≤ e.2 ∧ e.2 ≤ 1) :
    0 ≤ riskScore weighted ∧ riskScore weighted ≤ 100 := by
  rw [riskScore_eq]
  split
  · rename_i positive
    have weighs := (totalWeight_pos_iff nonneg).mp positive
    obtain ⟨e, member, inMean, atLeast⟩ := exists_le_weightedMean nonneg weighs
    obtain ⟨e', member', inMean', atMost⟩ := exists_weightedMean_le nonneg weighs
    have low : 0 ≤ weightedMean weighted := by linarith [(unit e member inMean).1]
    have high : weightedMean weighted ≤ ((100 : Nat) : Rat) := by
      push_cast
      linarith [(unit e' member' inMean').2]
    refine ⟨roundTo_nonneg 2 low, (roundTo_mono 2 low high).trans_eq ?_⟩
    rw [roundTo_natCast, Nat.cast_ofNat]
  · exact ⟨le_refl 0, by norm_num⟩

omit nonneg

section

variable {κ : Type} {keys : List κ} {weight score score' : κ → Rat}

theorem weightedMean_mono (nonneg : ∀ k ∈ keys, 0 ≤ weight k)
    (atMost : ∀ k ∈ keys, 0 < weight k → score k ≤ score' k) :
    weightedMean (keys.map fun k => (weight k, score k)) ≤
      weightedMean (keys.map fun k => (weight k, score' k)) := by
  simp only [weightedMean, List.map_map, Function.comp_def]
  have total : 0 ≤ (keys.map weight).sum := List.sum_nonneg (List.forall_mem_map.mpr nonneg)
  refine div_le_div_of_nonneg_right (mul_le_mul_of_nonneg_left ?_ (by norm_num)) total
  refine List.sum_le_sum fun k member => ?_
  rcases (nonneg k member).eq_or_lt with zero | weighs
  · rw [← zero, zero_mul, zero_mul]
  · exact mul_le_mul_of_nonneg_left (atMost k member weighs) weighs.le

/-- What weighs nothing has no part in the risk. -/
theorem riskScore_congr (nonneg : ∀ k ∈ keys, 0 ≤ weight k)
    (same : ∀ k ∈ keys, 0 < weight k → score k = score' k) :
    riskScore (keys.map fun k => (weight k, score k)) =
      riskScore (keys.map fun k => (weight k, score' k)) := by
  have mean := le_antisymm
    (weightedMean_mono nonneg fun k member weighs => (same k member weighs).le)
    (weightedMean_mono nonneg fun k member weighs => (same k member weighs).ge)
  rw [riskScore_eq, riskScore_eq, mean, List.map_map, List.map_map]
  rfl

/-- Higher scores make no lower risk. -/
theorem riskScore_mono (nonneg : ∀ k ∈ keys, 0 ≤ weight k) (low : ∀ k ∈ keys, 0 ≤ score k)
    (atMost : ∀ k ∈ keys, 0 < weight k → score k ≤ score' k) :
    riskScore (keys.map fun k => (weight k, score k)) ≤
      riskScore (keys.map fun k => (weight k, score' k)) := by
  have nonneg' : ∀ e ∈ keys.map fun k => (weight k, score k), 0 ≤ e.1 :=
    List.forall_mem_map.mpr nonneg
  have low' : ∀ e ∈ keys.map fun k => (weight k, score k), 0 ≤ e.2 := List.forall_mem_map.mpr low
  have totals : (keys.map fun k => (weight k, score' k)).map (·.1) =
      (keys.map fun k => (weight k, score k)).map (·.1) := by
    rw [List.map_map, List.map_map]
    rfl
  rw [riskScore_eq, riskScore_eq, totals]
  split
  · rename_i positive
    obtain ⟨e, member, _, atLeast⟩ :=
      exists_le_weightedMean nonneg' ((totalWeight_pos_iff nonneg').mp positive)
    refine roundTo_mono 2 ?_ (weightedMean_mono nonneg atMost)
    linarith [low' e member]
  · exact le_refl 0

end

/-! ## Reports -/

/-- The score of a category in a report on some findings. -/
def scoreIn (settings : ReportSettings Rat) (findings : List (Finding Rat)) (c : Category) : Rat :=
  (sectionOf settings c (findings.filter fun f => f.category = c)).score

/-- The scores of a report with the weights of their categories. -/
def weightedScores (settings : ReportSettings Rat) (r : Report Rat) : List (Rat × Rat) :=
  r.perCategory.map fun e => (settings.weightFor e.1, e.2.score)

section

variable (settings : ReportSettings Rat) (findings : List (Finding Rat)) (c : Category)

theorem scoreIn_cases : scoreIn settings findings c = 0 ∧ (∀ f ∈ findings, f.category ≠ c) ∨
    ∃ f ∈ findings, f.category = c ∧ f.confidence = scoreIn settings findings c := by
  by_cases filled : (findings.filter fun f => f.category = c) = []
  · refine .inl ⟨?_, ?_⟩
    · rw [scoreIn, filled]
      simp [sectionOf, rank, Arithmetic.ofNat]
    · simpa [List.filter_eq_nil_iff] using filled
  · obtain ⟨f, member, top⟩ : ∃ f ∈ findings.filter fun f => f.category = c,
        f.confidence = (sectionOf settings c (findings.filter fun f => f.category = c)).maxConfidence :=
      strongest_reached filled
    obtain ⟨listed, own⟩ := List.mem_filter.mp member
    exact .inr ⟨f, listed, of_decide_eq_true own, top⟩

variable {findings} {c}

theorem le_scoreIn {f : Finding Rat} (member : f ∈ findings) (own : f.category = c) :
    f.confidence ≤ scoreIn settings findings c := by
  have inside : f ∈ findings.filter fun f => f.category = c :=
    List.mem_filter.mpr ⟨member, decide_eq_true own⟩
  exact (le_strongest inside : _ ≤ (sectionOf settings c _).maxConfidence)

theorem scoreIn_unit (unit : ∀ f ∈ findings, 0 ≤ f.confidence ∧ f.confidence ≤ 1) :
    0 ≤ scoreIn settings findings c ∧ scoreIn settings findings c ≤ 1 := by
  rcases scoreIn_cases settings findings c with ⟨zero, _⟩ | ⟨f, member, _, top⟩
  · rw [zero]
    exact ⟨le_refl 0, zero_le_one⟩
  · rw [← top]
    exact unit f member

/-- Where each finding of a category is matched by one of no less confidence, its score is no less. -/
theorem scoreIn_mono {others : List (Finding Rat)} (nonneg : ∀ g ∈ others, 0 ≤ g.confidence)
    (matched : ∀ f ∈ findings, ∃ g ∈ others, g.category = f.category ∧ f.confidence ≤ g.confidence) :
    scoreIn settings findings c ≤ scoreIn settings others c := by
  rcases scoreIn_cases settings findings c with ⟨zero, _⟩ | ⟨f, member, own, top⟩
  · rw [zero]
    rcases scoreIn_cases settings others c with ⟨zero', _⟩ | ⟨g, member, _, top⟩
    · exact zero'.ge
    · exact top ▸ nonneg g member
  · obtain ⟨g, member', same, atMost⟩ := matched f member
    exact top ▸ atMost.trans (le_scoreIn settings member' (same.trans own))

end

section

variable (settings : ReportSettings Rat) (active : List Category) (title binaryId : String)
  (findings : List (Finding Rat))

theorem weightedScores_build : weightedScores settings (build settings active title binaryId findings) =
    (Category.all.filter active.contains).map fun c =>
      (settings.weightFor c, scoreIn settings findings c) := by
  rw [weightedScores, build_perCategory, List.map_map]
  rfl

theorem build_overallRiskScore : (build settings active title binaryId findings).overallRiskScore =
    riskScore (weightedScores settings (build settings active title binaryId findings)) := by
  rw [weightedScores_build, build, List.map_map, List.map_map]
  rfl

theorem weightedScores_nonneg (r : Report Rat) : ∀ e ∈ weightedScores settings r, 0 ≤ e.1 :=
  List.forall_mem_map.mpr fun e _ => settings.weightFor_nonneg e.1

theorem weightedScores_weigh_iff :
    (∃ e ∈ weightedScores settings (build settings active title binaryId findings), 0 < e.1) ↔
      ∃ c ∈ active, 0 < settings.weightFor c := by
  rw [weightedScores_build]
  constructor
  · rintro ⟨_, listed, positive⟩
    obtain ⟨c, isActive, rfl⟩ := List.mem_map.mp listed
    exact ⟨c, (mem_active active).mp isActive, positive⟩
  · rintro ⟨c, isActive, positive⟩
    exact ⟨_, List.mem_map_of_mem ((mem_active active).mpr isActive), positive⟩

/-- Whether a report says no less of the risk than another one. -/
structure NoLowerRisk (r r' : Report Rat) : Prop where
  score : r.overallRiskScore ≤ r'.overallRiskScore
  level : r.riskLevel ≤ r'.riskLevel

/-- Whether a finding has a part in the risk: its category is active and weighs something. -/
def Counts (settings : ReportSettings Rat) (active : List Category) (f : Finding Rat) : Prop :=
  f.category ∈ active ∧ 0 < settings.weightFor f.category

instance : DecidablePred (Counts settings active) :=
  fun f => inferInstanceAs (Decidable (f.category ∈ active ∧ 0 < settings.weightFor f.category))

/-- A risk that weighs the scores of the active categories, for each list of findings a report is on. -/
structure WeighsRisk (report : List (Finding Rat) → Report Rat) : Prop where
  weight : ∀ c, settings.weightFor c = max ((settings.categoryWeights.lookup c).getD 1) 0
  nonneg : 0 ≤ (report findings).overallRiskScore
  le_hundred : (report findings).overallRiskScore ≤ 100
  /-- If something weighs, the risk is the rounded mean, which lies between two scores that weigh. -/
  mean : (∃ c ∈ active, 0 < settings.weightFor c) →
    (report findings).overallRiskScore =
        roundTo 2 (weightedMean (weightedScores settings (report findings))) ∧
      (∃ e ∈ (report findings).perCategory, 0 < settings.weightFor e.1 ∧
        100 * e.2.score ≤ weightedMean (weightedScores settings (report findings))) ∧
      ∃ e ∈ (report findings).perCategory, 0 < settings.weightFor e.1 ∧
        weightedMean (weightedScores settings (report findings)) ≤ 100 * e.2.score
  weightless : (∀ c ∈ active, ¬ 0 < settings.weightFor c) → (report findings).overallRiskScore = 0
  added : ∀ before f after, findings = before ++ after → 0 ≤ f.confidence → f.confidence ≤ 1 →
    NoLowerRisk (report findings) (report (before ++ f :: after))
  raised : ∀ before f after confidence, findings = before ++ f :: after → f.confidence ≤ confidence →
    confidence ≤ 1 →
      NoLowerRisk (report findings) (report (before ++ { f with confidence } :: after))
  ignored : ∀ others, others.filter (Counts settings active) = findings.filter (Counts settings active) →
    (report others).overallRiskScore = (report findings).overallRiskScore ∧
      (report others).riskLevel = (report findings).riskLevel

variable {findings}

theorem build_mean (weighs : ∃ c ∈ active, 0 < settings.weightFor c) :
    (build settings active title binaryId findings).overallRiskScore =
        roundTo 2 (weightedMean (weightedScores settings (build settings active title binaryId findings))) ∧
      (∃ e ∈ (build settings active title binaryId findings).perCategory, 0 < settings.weightFor e.1 ∧
        100 * e.2.score ≤
          weightedMean (weightedScores settings (build settings active title binaryId findings))) ∧
      ∃ e ∈ (build settings active title binaryId findings).perCategory, 0 < settings.weightFor e.1 ∧
        weightedMean (weightedScores settings (build settings active title binaryId findings)) ≤
          100 * e.2.score := by
  have nonneg := weightedScores_nonneg settings (build settings active title binaryId findings)
  have some := (weightedScores_weigh_iff settings active title binaryId findings).mpr weighs
  refine ⟨?_, ?_, ?_⟩
  · rw [build_overallRiskScore, riskScore_eq, if_pos ((totalWeight_pos_iff nonneg).mpr some)]
  · obtain ⟨_, listed, positive, atLeast⟩ := exists_le_weightedMean nonneg some
    obtain ⟨e, member, rfl⟩ := List.mem_map.mp listed
    exact ⟨e, member, positive, atLeast⟩
  · obtain ⟨_, listed, positive, atMost⟩ := exists_weightedMean_le nonneg some
    obtain ⟨e, member, rfl⟩ := List.mem_map.mp listed
    exact ⟨e, member, positive, atMost⟩

theorem build_weightless (weightless : ∀ c ∈ active, ¬ 0 < settings.weightFor c) :
    (build settings active title binaryId findings).overallRiskScore = 0 := by
  have nonneg := weightedScores_nonneg settings (build settings active title binaryId findings)
  rw [build_overallRiskScore, riskScore_eq, if_neg]
  intro positive
  obtain ⟨c, isActive, weighs⟩ := (weightedScores_weigh_iff settings active title binaryId findings).mp
    ((totalWeight_pos_iff nonneg).mp positive)
  exact weightless c isActive weighs

theorem build_risk_bounds (unit : ∀ f ∈ findings, 0 ≤ f.confidence ∧ f.confidence ≤ 1) :
    0 ≤ (build settings active title binaryId findings).overallRiskScore ∧
      (build settings active title binaryId findings).overallRiskScore ≤ 100 := by
  rw [build_overallRiskScore]
  refine riskScore_bounds (weightedScores_nonneg settings _) ?_
  rw [weightedScores_build]
  exact List.forall_mem_map.mpr fun c _ _ => scoreIn_unit settings unit

/-- Where each finding is matched by one of its category of no less confidence, the risk is no less. -/
theorem build_risk_mono {others : List (Finding Rat)}
    (unit : ∀ f ∈ findings, 0 ≤ f.confidence ∧ f.confidence ≤ 1) (nonneg : ∀ g ∈ others, 0 ≤ g.confidence)
    (matched : ∀ f ∈ findings, ∃ g ∈ others, g.category = f.category ∧ f.confidence ≤ g.confidence) :
    NoLowerRisk (build settings active title binaryId findings)
      (build settings active title binaryId others) := by
  have score : (build settings active title binaryId findings).overallRiskScore ≤
      (build settings active title binaryId others).overallRiskScore := by
    rw [build_overallRiskScore, build_overallRiskScore, weightedScores_build, weightedScores_build]
    exact riskScore_mono (fun c _ => settings.weightFor_nonneg c)
      (fun c _ => (scoreIn_unit settings unit).1) fun c _ _ => scoreIn_mono settings nonneg matched
  exact ⟨score, RiskLevel.ofScore_mono score⟩

/-- What does not count has no part in the risk. -/
theorem build_risk_congr {others : List (Finding Rat)}
    (same : others.filter (Counts settings active) = findings.filter (Counts settings active)) :
    (build settings active title binaryId others).overallRiskScore =
      (build settings active title binaryId findings).overallRiskScore := by
  have own (c : Category) (isActive : c ∈ active) (positive : 0 < settings.weightFor c)
      (some : List (Finding Rat)) : some.filter (fun f => f.category = c) =
        (some.filter (Counts settings active)).filter fun f => f.category = c := by
    rw [List.filter_filter]
    refine List.filter_congr fun f _ => ?_
    by_cases here : f.category = c
    · simp [Counts, here, isActive, positive]
    · simp [here]
  rw [build_overallRiskScore, build_overallRiskScore, weightedScores_build, weightedScores_build]
  refine riskScore_congr (fun c _ => settings.weightFor_nonneg c) fun c listed positive => ?_
  have isActive := (mem_active active).mp listed
  rw [scoreIn, scoreIn, own c isActive positive others, own c isActive positive findings, same]

/-- The risk of a report is a mean of scores: bounded by them, no lower for more or stronger findings, and
untouched by what does not count. -/
theorem build_weighsRisk (unit : ∀ f ∈ findings, 0 ≤ f.confidence ∧ f.confidence ≤ 1) :
    WeighsRisk settings active findings (build settings active title binaryId) where
  weight := settings.weightFor_eq
  nonneg := (build_risk_bounds settings active title binaryId unit).1
  le_hundred := (build_risk_bounds settings active title binaryId unit).2
  mean := build_mean settings active title binaryId
  weightless := build_weightless settings active title binaryId
  added := by
    rintro before f after rfl low _
    refine build_risk_mono settings active title binaryId unit ?_ ?_
    · intro g member
      rcases List.mem_append.mp member with early | late
      · exact (unit g (List.mem_append_left _ early)).1
      · rcases List.mem_cons.mp late with rfl | late
        · exact low
        · exact (unit g (List.mem_append_right _ late)).1
    · intro g member
      refine ⟨g, ?_, rfl, le_refl _⟩
      exact ((List.sublist_cons_self f after).append_left before).subset member
  raised := by
    rintro before f after confidence rfl atLeast _
    have kept : ∀ g ∈ before ++ f :: after, g ∈ before ++ { f with confidence } :: after ∨ g = f := by
      simp only [List.mem_append, List.mem_cons]
      tauto
    have origin : ∀ g ∈ before ++ { f with confidence } :: after,
        g ∈ before ++ f :: after ∨ g = { f with confidence } := by
      simp only [List.mem_append, List.mem_cons]
      tauto
    have listed : { f with confidence } ∈ before ++ { f with confidence } :: after :=
      List.mem_append_right _ List.mem_cons_self
    have low : 0 ≤ f.confidence := (unit f (List.mem_append_right _ List.mem_cons_self)).1
    refine build_risk_mono settings active title binaryId unit ?_ ?_
    · intro g member
      rcases origin g member with old | rfl
      · exact (unit g old).1
      · exact low.trans atLeast
    · intro g member
      rcases kept g member with again | rfl
      · exact ⟨g, again, rfl, le_refl _⟩
      · exact ⟨_, listed, rfl, atLeast⟩
  ignored _ same := by
    have score := build_risk_congr settings active title binaryId same
    exact ⟨score, congrArg RiskLevel.ofScore score⟩

end

/-- One category weighs three times as much as those that are not listed, and two weigh nothing. -/
def unevenSettings : ReportSettings Rat :=
  { categoryWeights := [(.network, 3), (.c2, -1), (.xpc, 0)], minConfidence := 0 }

/-- A finding that counts, one that weighs nothing and one of a category that is not active. -/
def unevenFindings : List (Finding Rat) :=
  [⟨.network, .procedure "send", 8, none, "socket", ["socket"], 3 / 4, []⟩,
    ⟨.xpc, .whole, 0, none, "listener", ["listener"], 1, []⟩,
    ⟨.rootkit, .whole, 0, none, "hook", ["hook"], 1, []⟩]

theorem build_weighsRisk_uneven :
    (∀ f ∈ unevenFindings, 0 ≤ f.confidence ∧ f.confidence ≤ 1) ∧
      WeighsRisk unevenSettings [.network, .keychain, .xpc] unevenFindings
        (build unevenSettings [.network, .keychain, .xpc] "scan" "sample") ∧
      ((∀ c ∈ [Category.c2, .xpc], ¬ 0 < unevenSettings.weightFor c) ∧
        (build unevenSettings [.c2, .xpc] "scan" "sample" unevenFindings).overallRiskScore = 0) ∧
      ([unevenFindings[0]].filter (Counts unevenSettings [.network, .keychain, .xpc]) =
          unevenFindings.filter (Counts unevenSettings [.network, .keychain, .xpc]) ∧
        (build unevenSettings [.network, .keychain, .xpc] "scan" "sample"
            [unevenFindings[0]]).overallRiskScore =
          (build unevenSettings [.network, .keychain, .xpc] "scan" "sample"
            unevenFindings).overallRiskScore) := by
  have unit : ∀ f ∈ unevenFindings, 0 ≤ f.confidence ∧ f.confidence ≤ 1 := by decide +kernel
  have weightless : ∀ c ∈ [Category.c2, .xpc], ¬ 0 < unevenSettings.weightFor c := by decide +kernel
  have same : [unevenFindings[0]].filter (Counts unevenSettings [.network, .keychain, .xpc]) =
      unevenFindings.filter (Counts unevenSettings [.network, .keychain, .xpc]) := by decide +kernel
  have weighs := build_weighsRisk unevenSettings [.network, .keychain, .xpc] "scan" "sample" unit
  have none := build_weighsRisk unevenSettings [.c2, .xpc] "scan" "sample" unit
  exact ⟨unit, weighs, ⟨weightless, none.weightless weightless⟩, same, (weighs.ignored _ same).1⟩

end Report

end TechniqueScan
