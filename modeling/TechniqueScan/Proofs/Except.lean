import Mathlib.Data.List.Forall2

/-!
Computations that may be refused. A sequence of them is accepted exactly when each is, and what
every step keeps is kept by all of them.
-/

namespace TechniqueScan

variable {ε α β σ : Type}

theorem bind_ok_iff {x : Except ε α} {f : α → Except ε β} {b : β} :
    (x >>= f) = .ok b ↔ ∃ a, x = .ok a ∧ f a = .ok b := by
  cases x with
  | error e => simp [bind, Except.bind]
  | ok a => simp [bind, Except.bind]

theorem map_ok_iff {x : Except ε α} {f : α → β} {b : β} :
    x.map f = .ok b ↔ ∃ a, x = .ok a ∧ f a = b := by
  cases x with
  | error e => simp [Except.map]
  | ok a => simp [Except.map]

theorem toOption_eq_some_iff {x : Except ε α} {a : α} : x.toOption = some a ↔ x = .ok a := by
  cases x with
  | error e => simp [Except.toOption]
  | ok b => simp [Except.toOption]

theorem ite_error_ok_iff {c : Prop} [Decidable c] {e : ε} {x : Except ε β} {b : β} :
    (if c then .error e else x) = .ok b ↔ ¬ c ∧ x = .ok b := by
  by_cases refused : c
  · simp [refused]
  · simp [refused]

theorem mapM_ok_iff {f : α → Except ε β} {items : List α} {results : List β} :
    items.mapM f = .ok results ↔ List.Forall₂ (fun a b => f a = .ok b) items results := by
  induction items generalizing results with
  | nil => cases results <;> simp [pure, Except.pure]
  | cons a rest ih =>
    simp only [List.mapM_cons, bind_ok_iff, ih]
    constructor
    · rintro ⟨b, first, bs, later, same⟩
      cases same
      exact .cons first later
    · intro each
      cases each with
      | cons first later => exact ⟨_, first, _, later, rfl⟩

/-- Each result has an item that it comes from. -/
theorem exists_of_forall₂_right {R : α → β → Prop} {items : List α} {results : List β}
    (each : List.Forall₂ R items results) {b : β} (member : b ∈ results) : ∃ a ∈ items, R a b := by
  induction each with
  | nil => cases member
  | cons first _ ih =>
    rcases List.mem_cons.mp member with rfl | later
    · exact ⟨_, List.mem_cons_self, first⟩
    · obtain ⟨a, listed, related⟩ := ih later
      exact ⟨a, List.mem_cons_of_mem _ listed, related⟩

/-- There are results for some items exactly if each item has one. -/
theorem exists_forall₂_iff {R : α → β → Prop} {items : List α} :
    (∃ results, List.Forall₂ R items results) ↔ ∀ a ∈ items, ∃ b, R a b := by
  induction items with
  | nil => simp
  | cons a rest ih =>
    rw [List.forall_mem_cons, ← ih]
    constructor
    · rintro ⟨_, _ | ⟨first, later⟩⟩
      exact ⟨⟨_, first⟩, _, later⟩
    · rintro ⟨⟨b, first⟩, results, later⟩
      exact ⟨b :: results, .cons first later⟩

theorem forM_ok_iff {f : α → Except ε Unit} {items : List α} :
    items.forM f = .ok () ↔ ∀ a ∈ items, f a = .ok () := by
  induction items with
  | nil => simp [pure, Except.pure]
  | cons a rest ih =>
    simp only [List.forM_eq_forM] at ih
    simp only [List.forM_eq_forM, List.forM_cons, bind_ok_iff, ih, List.forall_mem_cons]
    constructor
    · rintro ⟨_, first, later⟩
      exact ⟨first, later⟩
    · rintro ⟨first, later⟩
      exact ⟨(), first, later⟩

/-- Where a step is accepted for items that are valid and fresh, and leaves the items fresh that are apart
from its own, a fold is accepted for valid items that are fresh and apart from each other. Both are asked
only of states that every accepted step keeps. -/
theorem foldlM_accepts_iff {f : σ → α → Except ε σ} (kept : σ → Prop) (valid : α → Prop)
    (fresh : σ → α → Prop) (apart : α → α → Prop)
    (keeps : ∀ s a s', kept s → f s a = .ok s' → kept s')
    (step : ∀ s a, kept s → ((∃ s', f s a = .ok s') ↔ valid a ∧ fresh s a))
    (leaves : ∀ s a s', kept s → f s a = .ok s' → ∀ b, fresh s' b ↔ fresh s b ∧ apart a b)
    {items : List α} {start : σ} (initially : kept start) :
    (∃ final, items.foldlM f start = .ok final) ↔
      (∀ a ∈ items, valid a ∧ fresh start a) ∧ items.Pairwise apart := by
  induction items generalizing start with
  | nil => simp [pure, Except.pure]
  | cons a rest ih =>
    simp only [List.foldlM_cons, bind_ok_iff]
    rw [List.forall_mem_cons, List.pairwise_cons]
    constructor
    · rintro ⟨final, next, first, later⟩
      obtain ⟨each, pairwise⟩ := (ih (keeps start a next initially first)).mp ⟨final, later⟩
      have left := leaves start a next initially first
      refine ⟨⟨(step start a initially).mp ⟨next, first⟩, fun b member => ?_⟩, fun b member => ?_, pairwise⟩
      · exact ⟨(each b member).1, ((left b).mp (each b member).2).1⟩
      · exact ((left b).mp (each b member).2).2
    · rintro ⟨⟨first, each⟩, others, pairwise⟩
      obtain ⟨next, accepted⟩ := (step start a initially).mpr first
      have left := leaves start a next initially accepted
      obtain ⟨final, later⟩ := (ih (keeps start a next initially accepted)).mpr
        ⟨fun b member => ⟨(each b member).1, (left b).mpr ⟨(each b member).2, others b member⟩⟩, pairwise⟩
      exact ⟨final, next, accepted, later⟩

/-- What every accepted step keeps holds at the end of an accepted fold. -/
theorem foldlM_keeps {f : σ → α → Except ε σ} (kept : σ → Prop)
    (step : ∀ s a s', kept s → f s a = .ok s' → kept s') {items : List α} {start final : σ}
    (initially : kept start) (accepted : items.foldlM f start = .ok final) : kept final := by
  induction items generalizing start with
  | nil =>
    cases accepted
    exact initially
  | cons a rest ih =>
    rw [List.foldlM_cons, bind_ok_iff] at accepted
    obtain ⟨next, first, later⟩ := accepted
    exact ih (step start a next initially first) later

/-- Where every accepted step adds what it yields, a fold adds what all of them yield. -/
theorem foldlM_appends {f : σ → α → Except ε σ} (view : σ → List β) (yield : α → List β)
    (step : ∀ s a s', f s a = .ok s' → view s' = view s ++ yield a) {items : List α}
    {start final : σ} (accepted : items.foldlM f start = .ok final) :
    view final = view start ++ items.flatMap yield := by
  induction items generalizing start with
  | nil =>
    cases accepted
    exact (List.append_nil _).symm
  | cons a rest ih =>
    rw [List.foldlM_cons, bind_ok_iff] at accepted
    obtain ⟨next, first, later⟩ := accepted
    rw [ih later, step start a next first, List.flatMap_cons, List.append_assoc]

end TechniqueScan
