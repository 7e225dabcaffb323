import Mathlib.Data.List.Induction
import TechniqueScan.Proofs.Grouping
import TechniqueScan.Proofs.Order
import TechniqueScan.Scoring

/-!
Merging and ranking. Of the findings with one key a single one is left, which rests on the signatures
of one of them; ranking only reorders.
-/

namespace TechniqueScan

variable {α : Type} [Arithmetic α]

/-! ## Merging two findings -/

namespace Finding

/-- Whether two findings say the same, wherever it is seen and whatever shows it. -/
structure Agrees (f g : Finding α) : Prop where
  rule : f.rule = g.rule
  title : f.title = g.title
  signatures : f.signatures = g.signatures
  confidence : f.confidence = g.confidence

omit [Arithmetic α] in
theorem Agrees.trans {f g h : Finding α} (first : f.Agrees g) (second : g.Agrees h) : f.Agrees h :=
  ⟨first.rule.trans second.rule, first.title.trans second.title,
    first.signatures.trans second.signatures, first.confidence.trans second.confidence⟩

omit [Arithmetic α] in
theorem Agrees.symm {f g : Finding α} (agrees : f.Agrees g) : g.Agrees f :=
  ⟨agrees.rule.symm, agrees.title.symm, agrees.signatures.symm, agrees.confidence.symm⟩

omit [Arithmetic α] in
/-- Findings that say the same of one place are equal once the same facts show them. -/
theorem Agrees.eq {f g : Finding α} (agrees : f.Agrees g) (place : f.key = g.key)
    (address : f.address = g.address) (evidence : f.evidence = g.evidence) : f = g := by
  cases f
  cases g
  simp only [Finding.mk.injEq]
  exact ⟨congrArg FindingKey.category place, congrArg FindingKey.scope place, address, agrees.rule,
    agrees.title, agrees.signatures, agrees.confidence, evidence⟩

/-- A merged finding says what one of the two says. -/
theorem agrees_merge (f g : Finding α) : f.Agrees (f.merge g) ∨ g.Agrees (f.merge g) := by
  by_cases higher : Arithmetic.lt f.confidence g.confidence
  · refine .inr ?_
    constructor <;> simp [merge, higher]
  · refine .inl ?_
    constructor <;> simp [merge, higher]

/-- A merged finding keeps the key of the first one. -/
theorem merge_key {f g : Finding α} (same : g.key = f.key) : (f.merge g).key = f.key := by
  have signatures : (f.merge g).key.signatures = f.key.signatures := by
    rcases agrees_merge f g with own | other
    · simp only [key, own.signatures]
    · rw [← same]
      simp only [key, other.signatures]
  exact FindingKey.mk.injEq .. |>.mpr ⟨rfl, rfl, signatures⟩

omit [Arithmetic α] in
theorem key_signatures_perm (f : Finding α) : f.key.signatures.Perm f.signatures :=
  List.mergeSort_perm _ _

omit [Arithmetic α] in
theorem perm_of_key_eq {f g : Finding α} (same : f.key = g.key) :
    f.signatures.Perm g.signatures := by
  have left := f.key_signatures_perm
  rw [same] at left
  exact left.symm.trans g.key_signatures_perm

end Finding

/-! ## Merging one more finding -/

theorem absorb_keys (k : FindingKey) (f : Finding α) (entries : List (FindingKey × Finding α)) :
    (absorb k f entries).map (·.1) =
      if k ∈ entries.map (·.1) then entries.map (·.1) else entries.map (·.1) ++ [k] := by
  induction entries with
  | nil => rfl
  | cons e rest ih =>
    obtain ⟨k', g⟩ := e
    by_cases same : k' = k
    · simp [absorb, same]
    · simp only [absorb, if_neg same, List.map_cons, ih, List.mem_cons, Ne.symm same, false_or]
      split <;> simp

/-- Where no key comes twice, a finding is merged with the only one that has its key. -/
theorem mem_absorb {k : FindingKey} {f : Finding α}
    {entries : List (FindingKey × Finding α)} (distinct : (entries.map (·.1)).Nodup)
    {e : FindingKey × Finding α} (member : e ∈ absorb k f entries) :
    (e ∈ entries ∧ e.1 ≠ k) ∨ (e = (k, f) ∧ k ∉ entries.map (·.1)) ∨
      ∃ g, (k, g) ∈ entries ∧ e = (k, g.merge f) := by
  induction entries with
  | nil => exact .inr (.inl ⟨List.mem_singleton.mp member, List.not_mem_nil⟩)
  | cons first rest ih =>
    obtain ⟨k', g⟩ := first
    obtain ⟨fresh, distinct⟩ := List.nodup_cons.mp distinct
    by_cases same : k' = k
    · subst same
      rw [absorb, if_pos rfl] at member
      rcases List.mem_cons.mp member with here | later
      · exact .inr (.inr ⟨g, List.mem_cons_self, here⟩)
      · refine .inl ⟨List.mem_cons_of_mem _ later, ?_⟩
        intro again
        exact fresh (List.mem_map.mpr ⟨e, later, again⟩)
    · rw [absorb, if_neg same] at member
      rcases List.mem_cons.mp member with here | later
      · exact .inl ⟨here ▸ List.mem_cons_self, here ▸ same⟩
      · rcases ih distinct later with ⟨earlier, other⟩ | ⟨new, absent⟩ | ⟨g', old, merged⟩
        · exact .inl ⟨List.mem_cons_of_mem _ earlier, other⟩
        · exact .inr (.inl ⟨new, List.not_mem_cons_of_ne_of_not_mem (Ne.symm same) absent⟩)
        · exact .inr (.inr ⟨g', List.mem_cons_of_mem _ old, merged⟩)

/-! ## Merging all findings -/

/-- What holds of the entries that some findings have been merged into. -/
structure Merged (findings : List (Finding α)) (entries : List (FindingKey × Finding α)) : Prop where
  keyed : ∀ e ∈ entries, e.2.key = e.1
  distinct : (entries.map (·.1)).Nodup
  covered : ∀ f ∈ findings, f.key ∈ entries.map (·.1)
  rests : ∀ e ∈ entries, ∃ f ∈ findings, f.key = e.1 ∧ f.Agrees e.2

theorem Merged.absorb {findings : List (Finding α)} {entries : List (FindingKey × Finding α)}
    (held : Merged findings entries) (f : Finding α) :
    Merged (findings ++ [f]) (absorb f.key f entries) := by
  constructor
  · intro e member
    rcases mem_absorb held.distinct member with ⟨earlier, _⟩ | ⟨rfl, _⟩ | ⟨g, old, rfl⟩
    · exact held.keyed e earlier
    · rfl
    · have same : g.key = f.key := held.keyed _ old
      rw [Finding.merge_key same.symm, same]
  · rw [absorb_keys]
    split
    · exact held.distinct
    · rename_i new
      exact List.nodup_append'.mpr
        ⟨held.distinct, List.nodup_singleton _, List.disjoint_singleton.mpr new⟩
  · intro g member
    rw [absorb_keys]
    rcases List.mem_append.mp member with earlier | here
    · have known := held.covered g earlier
      split
      · exact known
      · exact List.mem_append_left _ known
    · rw [List.mem_singleton.mp here]
      split
      · assumption
      · exact List.mem_append_right _ List.mem_cons_self
  · intro e member
    rcases mem_absorb held.distinct member with ⟨earlier, _⟩ | ⟨rfl, _⟩ | ⟨g, old, rfl⟩
    · obtain ⟨h, origin, same⟩ := held.rests e earlier
      exact ⟨h, List.mem_append_left _ origin, same⟩
    · exact ⟨f, List.mem_append_right _ List.mem_cons_self, rfl, rfl, rfl, rfl, rfl⟩
    · rcases Finding.agrees_merge g f with own | other
      · obtain ⟨h, origin, same, agrees⟩ := held.rests _ old
        exact ⟨h, List.mem_append_left _ origin, same, agrees.trans own⟩
      · exact ⟨f, List.mem_append_right _ List.mem_cons_self, rfl, other⟩

theorem merged_foldl (findings : List (Finding α)) :
    Merged findings (findings.foldl (fun kept f => absorb f.key f kept) []) := by
  induction findings using List.reverseRecOn with
  | nil => constructor <;> simp
  | append_singleton earlier f held =>
    rw [List.foldl_append, List.foldl_cons, List.foldl_nil]
    exact held.absorb f

theorem deduplicate_map_key (findings : List (Finding α)) :
    (deduplicate findings).map Finding.key =
      (findings.foldl (fun kept f => absorb f.key f kept) []).map (·.1) := by
  rw [deduplicate, List.map_map]
  exact List.map_congr_left (merged_foldl findings).keyed

/-- Of each key at most one finding is left. -/
theorem deduplicate_keys_nodup (findings : List (Finding α)) :
    ((deduplicate findings).map Finding.key).Nodup := by
  rw [deduplicate_map_key]
  exact (merged_foldl findings).distinct

/-- Of each key that occurs a finding is left. -/
theorem deduplicate_covers {findings : List (Finding α)} {f : Finding α} (member : f ∈ findings) :
    ∃ g ∈ deduplicate findings, g.key = f.key := by
  have held := merged_foldl findings
  obtain ⟨e, kept, same⟩ := List.mem_map.mp (held.covered f member)
  exact ⟨e.2, List.mem_map_of_mem kept, (held.keyed e kept).trans same⟩

/-- What is left says what a finding with its key says. -/
theorem deduplicate_rests {findings : List (Finding α)} {g : Finding α}
    (left : g ∈ deduplicate findings) : ∃ f ∈ findings, f.key = g.key ∧ f.Agrees g := by
  have held := merged_foldl findings
  obtain ⟨e, kept, rfl⟩ := List.mem_map.mp left
  obtain ⟨f, origin, same, agrees⟩ := held.rests e kept
  exact ⟨f, origin, same.trans (held.keyed e kept).symm, agrees⟩

/-! ## Ranking and scoring -/

theorem rank_perm (findings : List (Finding α)) : (rank findings).Perm findings :=
  List.mergeSort_perm _ _

theorem deduplicate_category {findings : List (Finding α)} {c : Category}
    (own : ∀ f ∈ findings, f.category = c) : ∀ g ∈ deduplicate findings, g.category = c := by
  intro g left
  obtain ⟨f, origin, same, _⟩ := deduplicate_rests left
  rw [← own f origin]
  exact (congrArg FindingKey.category same).symm

theorem scoreGroup_category {minConfidence : α} {findings : List (Finding α)} {c : Category}
    (own : ∀ f ∈ findings, f.category = c) : ∀ g ∈ scoreGroup minConfidence findings, g.category = c := by
  intro g member
  have kept := (rank_perm _).mem_iff.mp member
  exact deduplicate_category own g (List.mem_filter.mp kept).1

theorem scoreGroup_nil (minConfidence : α) : scoreGroup minConfidence ([] : List (Finding α)) = [] := by
  simp [scoreGroup, deduplicate, rank]

omit [Arithmetic α] in
/-- Waiting for tasks one by one yields what calling their functions one by one does. -/
theorem mapEach_eq {β γ : Type} (parallel : Bool) (f : β → γ) (items : List β) :
    mapEach parallel f items = items.map f := by
  cases parallel with
  | false => rfl
  | true => exact List.map_map

/-- Whether categories are scored side by side does not matter. -/
theorem scoreAll_eq (minConfidence : α) (findings : List (Finding α)) (parallel : Bool) :
    scoreAll minConfidence findings parallel = Category.all.filterMap fun c =>
      match findings.filter fun f => f.category = c with
      | [] => none
      | group => some (c, scoreGroup minConfidence group) := by
  rw [scoreAll, mapEach_eq, groups, List.map_filterMap]
  refine List.filterMap_congr fun c _ => ?_
  cases findings.filter fun f => f.category = c <;> rfl

theorem scoreAll_findings (minConfidence : α) (findings : List (Finding α)) (parallel : Bool) :
    (scoreAll minConfidence findings parallel).flatMap (·.2) =
      Category.all.flatMap fun c => scoreGroup minConfidence (findings.filter fun f => f.category = c) := by
  rw [scoreAll_eq]
  generalize Category.all = categories
  induction categories with
  | nil => rfl
  | cons c rest ih =>
    rw [List.filterMap_cons, List.flatMap_cons]
    cases group : findings.filter fun f => f.category = c with
    | nil => simp only [ih, scoreGroup_nil, List.nil_append]
    | cons f more => simp only [List.flatMap_cons, ih]

/-- The scored findings of a category come from the findings of that category. -/
theorem scoreAll_filter (minConfidence : α) (findings : List (Finding α)) (parallel : Bool)
    (c : Category) :
    ((scoreAll minConfidence findings parallel).flatMap (·.2)).filter (fun f => f.category = c) =
      scoreGroup minConfidence (findings.filter fun f => f.category = c) := by
  rw [scoreAll_findings, flatMap_filter_key ?_ Category.all_nodup, if_pos (Category.mem_all c)]
  intro c _ f member
  refine scoreGroup_category ?_ f member
  intro g inside
  simpa using (List.mem_filter.mp inside).2

end TechniqueScan
