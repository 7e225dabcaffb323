import Mathlib.Data.List.Induction
import Mathlib.Data.List.Pairwise
import Std.Data.TreeMap.Lemmas
import TechniqueScan.Correlation
import TechniqueScan.Proofs.Catalogue.Registry

/-!
The choice among rules that overlap. Rules are considered one after the other, and each fires unless
a rule that fired before it has taken one of its signatures; that alone determines which rules fire
and which conflicts are met.
-/

namespace TechniqueScan

variable {α : Type}

/-- Whether two rules tie a common signature. -/
def Rule.Overlaps (a b : Rule α) : Prop := ∃ id ∈ a.signatures, id ∈ b.signatures

theorem Rule.Overlaps.symm {a b : Rule α} (overlap : a.Overlaps b) : b.Overlaps a := by
  obtain ⟨id, left, right⟩ := overlap
  exact ⟨id, right, left⟩

instance : Std.Symm fun a b : Rule α => ¬ a.Overlaps b := ⟨fun _ _ apart overlap => apart overlap.symm⟩

/-- The rules that fire among rules in the order in which they are considered: those that overlap
no fired rule before them. -/
structure GreedyChoice (before : Rule α → Rule α → Prop) (considered fired : List (Rule α)) :
    Prop where
  sublist : fired.Sublist considered
  fires_iff : ∀ r ∈ considered, r ∈ fired ↔ ∀ f ∈ fired, before f r → ¬ r.Overlaps f

namespace GreedyChoice

variable {before : Rule α → Rule α → Prop} {considered fired : List (Rule α)} {r : Rule α}

theorem append_fired (asymm : ∀ a b, before a b → ¬ before b a)
    (held : GreedyChoice before considered fired) (last : ∀ q ∈ considered, before q r)
    (free : ∀ f ∈ fired, ¬ r.Overlaps f) :
    GreedyChoice before (considered ++ [r]) (fired ++ [r]) := by
  refine ⟨held.sublist.append_right [r], ?_⟩
  intro q member
  have self : ¬ before r r := fun once => asymm r r once once
  rcases List.mem_append.mp member with earlier | here
  · have other : q ≠ r := fun same => self (same ▸ last q earlier)
    have unreached : ¬ before r q := asymm q r (last q earlier)
    simp [held.fires_iff q earlier, other, or_imp, forall_and, unreached]
  · rw [List.mem_singleton.mp here]
    simp only [List.mem_append, List.mem_singleton, or_true, true_iff]
    rintro f (earlier | rfl) reached
    · exact free f earlier
    · exact (self reached).elim

theorem append_dropped (held : GreedyChoice before considered fired)
    (last : ∀ q ∈ considered, before q r) (new : r ∉ considered)
    (taken : ∃ f ∈ fired, r.Overlaps f) : GreedyChoice before (considered ++ [r]) fired := by
  refine ⟨held.sublist.trans (List.sublist_append_left considered [r]), ?_⟩
  intro q member
  rcases List.mem_append.mp member with earlier | here
  · exact held.fires_iff q earlier
  · rw [List.mem_singleton.mp here]
    obtain ⟨f, fired, overlap⟩ := taken
    have dropped : r ∉ _ := fun fired => new (held.sublist.subset fired)
    refine iff_of_false dropped ?_
    intro free
    exact free f fired (last f (held.sublist.subset fired)) overlap

/-- Only one choice is greedy. -/
theorem unique {other : List (Rule α)} (asymm : ∀ a b, before a b → ¬ before b a)
    (ordered : considered.Pairwise before) (first : GreedyChoice before considered fired)
    (second : GreedyChoice before considered other) : fired = other := by
  have nodup {rules : List (Rule α)} (ordered : rules.Pairwise before) : rules.Nodup := by
    refine List.Pairwise.imp ?_ ordered
    rintro a _ reached rfl
    exact asymm a a reached reached
  -- The choices agree on every initial part of the rules: what is before a rule lies in that part.
  have agree (part rest : List (Rule α)) (split : part ++ rest = considered) :
      ∀ r ∈ part, r ∈ fired ↔ r ∈ other := by
    induction part using List.reverseRecOn generalizing rest with
    | nil => simp
    | append_singleton part r ih =>
      rw [List.append_assoc] at split
      have earlier := ih ([r] ++ rest) split
      have inside : ∀ f ∈ considered, before f r → f ∈ part := by
        intro f member reached
        rw [← split] at member ordered
        obtain ⟨_, later, _⟩ := List.pairwise_append.mp ordered
        rcases List.mem_append.mp member with member | member
        · exact member
        · rcases List.mem_cons.mp member with rfl | member
          · exact (asymm f f reached reached).elim
          · exact (asymm f r reached ((List.pairwise_cons.mp later).1 f member)).elim
      intro q member
      rcases List.mem_append.mp member with member | here
      · exact earlier q member
      · have placed : r ∈ considered := by simp [← split]
        rw [List.mem_singleton.mp here, first.fires_iff r placed, second.fires_iff r placed]
        constructor
        · intro free f chosen reached
          have member := inside f (second.sublist.subset chosen) reached
          exact free f ((earlier f member).mpr chosen) reached
        · intro free f chosen reached
          have member := inside f (first.sublist.subset chosen) reached
          exact free f ((earlier f member).mp chosen) reached
  have same (r : Rule α) : r ∈ fired ↔ r ∈ other := by
    constructor
    · intro chosen
      exact (agree considered [] (List.append_nil _) r (first.sublist.subset chosen)).mp chosen
    · intro chosen
      exact (agree considered [] (List.append_nil _) r (second.sublist.subset chosen)).mpr chosen
  have left := ordered.sublist first.sublist
  have right := ordered.sublist second.sublist
  have perm := (List.perm_ext_iff_of_nodup (nodup left) (nodup right)).mpr same
  refine List.Perm.eq_of_pairwise ?_ left right perm
  intro a b _ _ forth back
  exact (asymm a b forth back).elim

section

variable {a b : Rule α} (asymm : ∀ a b, before a b → ¬ before b a)
  (greedy : GreedyChoice before considered fired) (only : ∀ r ∈ considered, r = a ∨ r = b)
  (first : before a b)

include asymm greedy only first

/-- Of two rules, the first one fires wherever it is considered. -/
theorem first_fires (here : a ∈ considered) : a ∈ fired := by
  refine (greedy.fires_iff a here).mpr ?_
  intro f fires reached _
  rcases only f (greedy.sublist.subset fires) with rfl | rfl
  · exact asymm f f reached reached
  · exact asymm f a reached first

/-- The second one, if they overlap, fires where it is considered and the first one does not fire. -/
theorem second_fires_iff (overlap : b.Overlaps a) (here : b ∈ considered) : b ∈ fired ↔ a ∉ fired := by
  rw [greedy.fires_iff b here]
  constructor
  · intro free fires
    exact free a fires first overlap
  · intro absent f fires reached _
    rcases only f (greedy.sublist.subset fires) with rfl | rfl
    · exact absent fires
    · exact asymm f f reached reached

end

end GreedyChoice

/-- The conflict of a rule that is dropped for a signature that another one keeps. -/
def conflictOf (site : Site) (kept dropped : Rule α) (signature : String) : RuleConflict :=
  ⟨site.category, site.scope, signature, kept.id, dropped.id⟩

namespace Selection

variable {s : Selection α}

theorem ofCandidates_append (site : Site) (considered : List (Rule α)) (r : Rule α) :
    Selection.ofCandidates site (considered ++ [r]) =
      (Selection.ofCandidates site considered).consider site r := by
  simp only [ofCandidates, List.foldl_append, List.foldl_cons, List.foldl_nil]

@[simp]
theorem fire_fired (s : Selection α) (r : Rule α) : (s.fire r).fired = s.fired ++ [r] := rfl

@[simp]
theorem fire_conflicts (s : Selection α) (r : Rule α) : (s.fire r).conflicts = s.conflicts := rfl

/-! ## What is taken -/

/-- Whether exactly the signatures of fired rules are taken, each kept by a rule that ties it. -/
def Claims (s : Selection α) : Prop :=
  ∀ id kept, s.claimed[id]? = some kept ↔ ∃ f ∈ s.fired, id ∈ f.signatures ∧ f.id = kept

theorem getElem?_foldl_insert (ids : List String) (kept : String)
    (claimed : Std.TreeMap String String) (id : String) :
    (ids.foldl (fun claimed id => claimed.insert id kept) claimed)[id]? =
      if id ∈ ids then some kept else claimed[id]? := by
  induction ids generalizing claimed with
  | nil => rw [List.foldl_nil, if_neg List.not_mem_nil]
  | cons first rest ih =>
    rw [List.foldl_cons, ih, Std.TreeMap.getElem?_insert]
    by_cases later : id ∈ rest
    · rw [if_pos later, if_pos (List.mem_cons_of_mem _ later)]
    · by_cases here : first = id
      · simp [here]
      · simp [later, here, Ne.symm here]

theorem claims_nothing : ({} : Selection α).Claims := by
  intro id kept
  simp

namespace Claims

variable (claims : s.Claims)

include claims

theorem contains_iff (id : String) : s.claimed.contains id ↔ ∃ f ∈ s.fired, id ∈ f.signatures := by
  rw [Std.TreeMap.contains_eq_isSome_getElem?, Option.isSome_iff_exists]
  constructor
  · rintro ⟨kept, taken⟩
    obtain ⟨f, fired, listed, _⟩ := (claims id kept).mp taken
    exact ⟨f, fired, listed⟩
  · rintro ⟨f, fired, listed⟩
    exact ⟨f.id, (claims id f.id).mpr ⟨f, fired, listed, rfl⟩⟩

/-- The conflicts of a rule are with the fired rules that tie one of its signatures. -/
theorem mem_overlaps (site : Site) (r : Rule α) (c : RuleConflict) :
    c ∈ s.overlaps site r ↔ ∃ f ∈ s.fired, ∃ id ∈ r.signatures, id ∈ f.signatures ∧
      conflictOf site f r id = c := by
  simp only [overlaps, List.mem_filterMap, Option.map_eq_some_iff]
  constructor
  · rintro ⟨id, listed, kept, taken, rfl⟩
    obtain ⟨f, fired, shared, rfl⟩ := (claims id kept).mp taken
    exact ⟨f, fired, id, listed, shared, rfl⟩
  · rintro ⟨f, fired, id, listed, shared, rfl⟩
    exact ⟨id, listed, f.id, (claims id f.id).mpr ⟨f, fired, shared, rfl⟩, rfl⟩

/-- A rule fires unless it overlaps a fired one; then its conflicts are added. -/
theorem consider_eq (site : Site) (r : Rule α) :
    (∀ f ∈ s.fired, ¬ r.Overlaps f) ∧ s.consider site r = s.fire r ∨
      (∃ f ∈ s.fired, r.Overlaps f) ∧
        s.consider site r = { s with conflicts := s.conflicts ++ s.overlaps site r } := by
  unfold consider
  cases taken : s.overlaps site r with
  | nil =>
    refine .inl ⟨?_, rfl⟩
    rintro f fired ⟨id, listed, shared⟩
    have conflict := (claims.mem_overlaps site r _).mpr ⟨f, fired, id, listed, shared, rfl⟩
    rw [taken] at conflict
    cases conflict
  | cons c rest =>
    refine .inr ⟨?_, rfl⟩
    obtain ⟨f, fired, id, listed, shared, _⟩ :=
      (claims.mem_overlaps site r c).mp (by rw [taken]; exact List.mem_cons_self)
    exact ⟨f, fired, id, listed, shared⟩

/-- A rule that overlaps no fired one takes signatures that nothing has taken. -/
theorem fire {r : Rule α} (free : ∀ f ∈ s.fired, ¬ r.Overlaps f) : (s.fire r).Claims := by
  intro id kept
  simp only [Selection.fire, getElem?_foldl_insert, List.mem_append, List.mem_singleton]
  by_cases own : id ∈ r.signatures
  · rw [if_pos own, Option.some_inj]
    constructor
    · intro same
      exact ⟨r, .inr rfl, own, same⟩
    · rintro ⟨f, fired | rfl, listed, same⟩
      · exact (free f fired ⟨id, own, listed⟩).elim
      · exact same
  · rw [if_neg own, claims id kept]
    constructor
    · rintro ⟨f, fired, listed, same⟩
      exact ⟨f, .inl fired, listed, same⟩
    · rintro ⟨f, fired | rfl, listed, same⟩
      · exact ⟨f, fired, listed, same⟩
      · exact (own listed).elim

theorem consider (site : Site) (r : Rule α) : (s.consider site r).Claims := by
  rcases claims.consider_eq site r with ⟨free, stepped⟩ | ⟨_, stepped⟩
  · rw [stepped]
    exact claims.fire free
  · rw [stepped]
    exact claims

end Claims

/-- Whichever rules are considered, what is taken is told by those that fire. -/
theorem claims_ofCandidates (site : Site) (rules : List (Rule α)) :
    (ofCandidates site rules).Claims := by
  induction rules using List.reverseRecOn with
  | nil => exact claims_nothing
  | append_singleton considered r ih =>
    rw [ofCandidates_append]
    exact ih.consider site r

theorem overlaps_nodup (site : Site) (s : Selection α) {r : Rule α} (once : r.signatures.Nodup) :
    (s.overlaps site r).Nodup := by
  refine once.filterMap ?_
  intro a b c left right
  obtain ⟨kept, _, rfl⟩ := Option.map_eq_some_iff.mp left
  obtain ⟨kept', _, same⟩ := Option.map_eq_some_iff.mp right
  exact (congrArg RuleConflict.signature same).symm

/-! ## All rules -/

/-- What holds of a selection once some rules have been considered. -/
structure Chosen (before : Rule α → Rule α → Prop) (site : Site) (considered : List (Rule α))
    (s : Selection α) : Prop where
  choice : GreedyChoice before considered s.fired
  disjoint : s.fired.Pairwise fun a b => ¬ a.Overlaps b
  mem_conflicts : ∀ c, c ∈ s.conflicts ↔ ∃ r ∈ considered, ∃ f ∈ s.fired, before f r ∧
    ∃ id ∈ r.signatures, id ∈ f.signatures ∧ conflictOf site f r id = c
  conflicts_nodup : s.conflicts.Nodup

namespace Chosen

variable {before : Rule α → Rule α → Prop} {site : Site} {considered : List (Rule α)} {r : Rule α}

theorem fire (asymm : ∀ a b, before a b → ¬ before b a) (held : Chosen before site considered s)
    (last : ∀ q ∈ considered, before q r) (free : ∀ f ∈ s.fired, ¬ r.Overlaps f) :
    Chosen before site (considered ++ [r]) (s.fire r) := by
  refine ⟨held.choice.append_fired asymm last free, ?_, ?_, held.conflicts_nodup⟩
  · refine List.pairwise_append.mpr ⟨held.disjoint, List.pairwise_singleton _ _, ?_⟩
    rintro f fired _ (_ | ⟨_, ⟨⟩⟩) overlap
    exact free f fired overlap.symm
  · intro c
    rw [fire_conflicts, fire_fired, held.mem_conflicts]
    constructor
    · rintro ⟨q, member, f, fired, reached, shared⟩
      exact ⟨q, List.mem_append_left _ member, f, List.mem_append_left _ fired, reached, shared⟩
    · -- The new rule comes before none of those considered, and shares nothing with a fired one.
      rintro ⟨q, member, f, fired, reached, id, listed, shared, same⟩
      rcases List.mem_append.mp fired with fired | here
      · rcases List.mem_append.mp member with member | here
        · exact ⟨q, member, f, fired, reached, id, listed, shared, same⟩
        · rw [List.mem_singleton.mp here] at listed
          exact (free f fired ⟨id, listed, shared⟩).elim
      · rw [List.mem_singleton.mp here] at reached
        rcases List.mem_append.mp member with member | here
        · exact (asymm q r (last q member) reached).elim
        · rw [List.mem_singleton.mp here] at reached
          exact (asymm r r reached reached).elim

theorem drop (held : Chosen before site considered s) (claims : s.Claims) (last : ∀ q ∈ considered, before q r)
    (fresh : ∀ q ∈ considered, q.id ≠ r.id) (once : r.signatures.Nodup)
    (taken : ∃ f ∈ s.fired, r.Overlaps f) :
    Chosen before site (considered ++ [r])
      { s with conflicts := s.conflicts ++ s.overlaps site r } := by
  have new : r ∉ considered := fun member => fresh r member rfl
  refine ⟨held.choice.append_dropped last new taken, held.disjoint, ?_, ?_⟩
  · intro c
    rw [List.mem_append, held.mem_conflicts, claims.mem_overlaps]
    constructor
    · rintro (⟨q, member, shared⟩ | ⟨f, fired, shared⟩)
      · exact ⟨q, List.mem_append_left _ member, shared⟩
      · exact ⟨r, List.mem_append_right _ List.mem_cons_self, f, fired,
          last f (held.choice.sublist.subset fired), shared⟩
    · rintro ⟨q, member, f, fired, reached, shared⟩
      rcases List.mem_append.mp member with member | here
      · exact .inl ⟨q, member, f, fired, reached, shared⟩
      · rw [List.mem_singleton.mp here] at shared
        exact .inr ⟨f, fired, shared⟩
  · refine List.nodup_append'.mpr ⟨held.conflicts_nodup, overlaps_nodup site s once, ?_⟩
    intro c earlier here
    obtain ⟨q, member, f, _, _, id, _, _, rfl⟩ := (held.mem_conflicts c).mp earlier
    obtain ⟨g, _, id', _, _, same⟩ := (claims.mem_overlaps site r _).mp here
    exact fresh q member (congrArg RuleConflict.dropped same).symm

/-- Considering rules in order chooses among them. -/
theorem ofCandidates (asymm : ∀ a b, before a b → ¬ before b a) (site : Site)
    {rules : List (Rule α)} (ordered : rules.Pairwise before) (ids : (rules.map (·.id)).Nodup)
    (once : ∀ r ∈ rules, r.signatures.Nodup) :
    Chosen before site rules (Selection.ofCandidates site rules) := by
  induction rules using List.reverseRecOn with
  | nil => exact ⟨⟨List.Sublist.refl _, by simp⟩, List.Pairwise.nil, by simp [Selection.ofCandidates],
      List.nodup_nil⟩
  | append_singleton considered r ih =>
    obtain ⟨ordered, _, last⟩ := List.pairwise_append.mp ordered
    rw [List.map_append, List.nodup_append'] at ids
    obtain ⟨ids, _, fresh⟩ := ids
    have held := ih ordered ids fun q member => once q (List.mem_append_left _ member)
    have last : ∀ q ∈ considered, before q r := fun q member => last q member r List.mem_cons_self
    have fresh : ∀ q ∈ considered, q.id ≠ r.id := fun q member same =>
      fresh (List.mem_map_of_mem member) (by rw [same]; exact List.mem_cons_self)
    have claims := claims_ofCandidates site considered
    rw [ofCandidates_append]
    rcases claims.consider_eq site r with ⟨free, stepped⟩ | ⟨taken, stepped⟩
    · rw [stepped]
      exact held.fire asymm last free
    · rw [stepped]
      exact held.drop claims last fresh (once r (List.mem_append_right _ List.mem_cons_self)) taken

/-- A rule that is considered fires, or it is in conflict with a fired rule. -/
theorem accounted (held : Chosen before site considered s) (member : r ∈ considered) :
    r ∈ s.fired ∨ ∃ f id, conflictOf site f r id ∈ s.conflicts := by
  by_cases fires : r ∈ s.fired
  · exact .inl fires
  · rw [held.choice.fires_iff r member] at fires
    push Not at fires
    obtain ⟨f, fired, reached, id, listed, shared⟩ := fires
    exact .inr ⟨f, id, (held.mem_conflicts _).mpr ⟨r, member, f, fired, reached, id, listed, shared, rfl⟩⟩

end Chosen

end Selection

end TechniqueScan
