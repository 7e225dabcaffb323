import Mathlib.Data.List.Nodup

/-!
Groups of items. Where each key yields items that carry it, the items of some keys can be read off
from those of all keys.
-/

namespace TechniqueScan

variable {κ β : Type}

/-- Where all items that a key yields are of the kind of the key, the items of that kind are those
that the keys of that kind yield. -/
theorem flatMap_filter_kind {group : κ → List β} {kind : β → Bool} {wanted : κ → Bool}
    {keys : List κ} (own : ∀ k ∈ keys, ∀ b ∈ group k, kind b = wanted k) :
    (keys.flatMap group).filter kind = (keys.filter wanted).flatMap group := by
  induction keys with
  | nil => rfl
  | cons k rest ih =>
    obtain ⟨here, later⟩ := List.forall_mem_cons.mp own
    rw [List.flatMap_cons, List.filter_append, ih later]
    cases isWanted : wanted k with
    | true =>
      have all : (group k).filter kind = group k := by
        refine List.filter_eq_self.mpr fun b member => ?_
        rw [here b member, isWanted]
      rw [all, List.filter_cons_of_pos isWanted, List.flatMap_cons]
    | false =>
      have none : (group k).filter kind = [] := by
        refine List.filter_eq_nil_iff.mpr fun b member => ?_
        rw [here b member, isWanted]
        exact Bool.false_ne_true
      rw [none, List.filter_cons_of_neg (by simp [isWanted]), List.nil_append]

/-- Where no key comes twice, items of some kind that all carry one key are a single item. -/
theorem filter_eq_singleton {key : β → κ} {items : List β} (once : (items.map key).Nodup)
    {kind : β → Bool} {b : β} (member : b ∈ items) (own : kind b)
    (same : ∀ b' ∈ items, kind b' → key b' = key b) : items.filter kind = [b] := by
  have nodup := (List.Nodup.of_map key once).filter kind
  refine List.perm_singleton.mp ((List.perm_ext_iff_of_nodup nodup (List.nodup_singleton b)).mpr ?_)
  intro b'
  rw [List.mem_filter, List.mem_singleton]
  constructor
  · rintro ⟨member', own'⟩
    exact List.inj_on_of_nodup_map once member' member (same b' member' own')
  · rintro rfl
    exact ⟨member, own⟩

variable [DecidableEq κ]

theorem filter_eq_of_nodup {keys : List κ} (nodup : keys.Nodup) (k : κ) :
    keys.filter (fun k' => k' = k) = if k ∈ keys then [k] else [] := by
  rw [List.filter_eq, nodup.count]
  split <;> rfl

/-- The items of one key are those that it yields. -/
theorem flatMap_filter_key {key : β → κ} {group : κ → List β} {keys : List κ}
    (own : ∀ k ∈ keys, ∀ b ∈ group k, key b = k) (nodup : keys.Nodup) (k : κ) :
    (keys.flatMap group).filter (fun b => key b = k) = if k ∈ keys then group k else [] := by
  have same : ∀ k' ∈ keys, ∀ b ∈ group k', decide (key b = k) = decide (k' = k) := by
    intro k' listed b member
    rw [own k' listed b member]
  rw [flatMap_filter_kind same, filter_eq_of_nodup nodup]
  split
  · exact List.flatMap_singleton group k
  · rfl

/-- Where only the keys yield anything, what a key yields can be read off for any key. -/
theorem flatMap_filter_key_total {key : β → κ} {group : κ → List β} {keys : List κ}
    (own : ∀ k, ∀ b ∈ group k, key b = k) (nodup : keys.Nodup)
    (absent : ∀ k, k ∉ keys → group k = []) (k : κ) :
    (keys.flatMap group).filter (fun b => key b = k) = group k := by
  rw [flatMap_filter_key (fun k _ => own k) nodup]
  by_cases listed : k ∈ keys
  · rw [if_pos listed]
  · rw [if_neg listed, absent k listed]

/-- Items grouped by keys that cover them are the same items, group by group. -/
theorem flatMap_filter_perm {key : β → κ} {keys : List κ} (nodup : keys.Nodup) {items : List β}
    (covered : ∀ b ∈ items, key b ∈ keys) :
    (keys.flatMap fun k => items.filter fun b => key b = k).Perm items := by
  classical
  refine List.perm_iff_count.mpr fun b => ?_
  have own : ∀ k ∈ keys, ∀ b ∈ items.filter (fun b => key b = k), key b = k := fun k _ b listed =>
    of_decide_eq_true (List.mem_filter.mp listed).2
  have kept (l : List β) : (l.filter fun b' => key b' = key b).count b = l.count b :=
    List.count_filter (decide_eq_true rfl)
  rw [← kept, flatMap_filter_key own nodup]
  by_cases listed : key b ∈ keys
  · rw [if_pos listed, kept]
  · rw [if_neg listed, List.count_nil, List.count_eq_zero.mpr fun member => listed (covered b member)]

theorem lookup_map_of_mem {ν : Type} (value : κ → ν) {keys : List κ} {k : κ} (listed : k ∈ keys) :
    (keys.map fun k => (k, value k)).lookup k = some (value k) := by
  induction keys with
  | nil => cases listed
  | cons k' rest ih =>
    rw [List.map_cons, List.lookup_cons]
    by_cases here : k = k'
    · simp [here]
    · rw [beq_false_of_ne here]
      exact ih ((List.mem_cons.mp listed).resolve_left here)

/-- Where no key comes twice, a key leads to the entry that carries it. -/
theorem lookup_eq_some_iff {entries : List (κ × β)} (once : (entries.map (·.1)).Nodup) {k : κ} {b : β} :
    entries.lookup k = some b ↔ (k, b) ∈ entries := by
  induction entries with
  | nil => simp
  | cons e rest ih =>
    obtain ⟨k', b'⟩ := e
    rw [List.map_cons, List.nodup_cons] at once
    obtain ⟨absent, once⟩ := once
    rw [List.lookup_cons, List.mem_cons]
    by_cases here : k = k'
    · subst here
      have later : (k, b) ∉ rest := fun member => absent (List.mem_map.mpr ⟨_, member, rfl⟩)
      simp [later, eq_comm]
    · simp [here, beq_false_of_ne here, ih once]

omit [DecidableEq κ] in
/-- Entries listed in the order of their keys can be collected key by key. -/
theorem filterMap_of_looks {keys : List κ} (nodup : keys.Nodup) {entries : List (κ × β)}
    (listed : (entries.map (·.1)).Sublist keys) {look : κ → Option β}
    (looks : ∀ k ∈ keys, ∀ b, look k = some b ↔ (k, b) ∈ entries) :
    keys.filterMap (fun k => (look k).map fun b => (k, b)) = entries := by
  induction keys generalizing entries with
  | nil => exact (List.map_eq_nil_iff.mp (List.sublist_nil.mp listed)).symm
  | cons k rest ih =>
    obtain ⟨fresh, once⟩ := List.nodup_cons.mp nodup
    obtain ⟨here, others⟩ := List.forall_mem_cons.mp looks
    rw [List.filterMap_cons]
    rcases List.sublist_cons_iff.mp listed with later | ⟨keys, same, later⟩
    · have absent : look k = none := by
        refine Option.eq_none_iff_forall_ne_some.mpr fun b found => fresh ?_
        exact later.subset (List.mem_map.mpr ⟨_, (here b).mp found, rfl⟩)
      rw [absent]
      exact ih once later others
    · obtain ⟨⟨_, b⟩, es, rfl, rfl, rfl⟩ := List.map_eq_cons_iff.mp same
      rw [(here b).mpr List.mem_cons_self]
      refine congrArg _ (ih once later fun k' member b' => ?_)
      rw [others k' member, List.mem_cons, or_iff_right]
      rintro ⟨⟩
      exact fresh member

end TechniqueScan
