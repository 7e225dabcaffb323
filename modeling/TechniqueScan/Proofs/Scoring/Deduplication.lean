import TechniqueScan.Proofs.Scoring.Comparison

/-!
Deduplication. Of the findings with one key a single one is left, at the place of the first of them. It
says what the earliest of the strongest ones says, and it shows what all of them show.
-/

namespace TechniqueScan

open Arithmetic (lt isNaN)
open Std (LawfulEqOrd OrientedCmp)

variable {α : Type} [Arithmetic α]

/-! ## Keys -/

omit [Arithmetic α] in
/-- Findings of one category and scope have one key if they rest on the same signatures in any order. -/
theorem Finding.key_eq_iff {f g : Finding α} : f.key = g.key ↔
    f.category = g.category ∧ f.scope = g.scope ∧ f.signatures.Perm g.signatures := by
  constructor
  · intro same
    exact ⟨congrArg FindingKey.category same, congrArg FindingKey.scope same, perm_of_key_eq same⟩
  · rintro ⟨category, scope, signatures⟩
    have sorted : f.key.signatures = g.key.signatures := by
      refine List.Perm.eq_of_pairwise ?_ (mergeSort_weaklyAscending f.signatures)
        (mergeSort_weaklyAscending g.signatures)
        (f.key_signatures_perm.trans (signatures.trans g.key_signatures_perm.symm))
      intro a b _ _ before after
      exact LawfulEqOrd.eq_of_compare (OrientedCmp.isLE_antisymm before after)
    exact FindingKey.mk.injEq .. |>.mpr ⟨category, scope, sorted⟩

theorem eraseDups_concat {κ : Type} [DecidableEq κ] (keys : List κ) (k : κ) :
    (keys ++ [k]).eraseDups = if k ∈ keys then keys.eraseDups else keys.eraseDups ++ [k] := by
  rw [List.eraseDups_append]
  by_cases known : k ∈ keys
  · simp [List.removeAll, known]
  · simp [List.removeAll, known, List.eraseDups_cons]

/-- Findings are left in the order in which their keys first appear. -/
theorem deduplicate_keys (findings : List (Finding α)) :
    (deduplicate findings).map Finding.key = (findings.map Finding.key).eraseDups := by
  rw [deduplicate_map_key]
  induction findings using List.reverseRecOn with
  | nil => rfl
  | append_singleton earlier f ih =>
    rw [List.foldl_append, List.foldl_cons, List.foldl_nil, absorb_keys, List.map_append,
      List.map_singleton, eraseDups_concat, ih]
    simp only [List.mem_eraseDups]

/-! ## The strongest finding of a group -/

/-- A finding that says what the earliest of the strongest findings of a group says. -/
def FollowsStrongest (group : List (Finding α)) (g : Finding α) : Prop :=
  ∃ before f after, group = before ++ f :: after ∧ f.Agrees g ∧
    (∀ h ∈ before, lt h.confidence f.confidence) ∧ ∀ h ∈ after, lt f.confidence h.confidence = false

theorem FollowsStrongest.concat [OrderedArithmetic α] {group : List (Finding α)} {g : Finding α}
    (numbers : ∀ h ∈ group, isNaN h.confidence = false) (follows : FollowsStrongest group g) (f : Finding α) :
    FollowsStrongest (group ++ [f]) (g.merge f) := by
  obtain ⟨before, s, after, rfl, agrees, weaker, notStronger⟩ := follows
  cases stronger : lt g.confidence f.confidence with
  | true =>
    have best : f.Agrees (g.merge f) := by
      constructor <;> simp [Finding.merge, stronger]
    have above : lt s.confidence f.confidence := agrees.confidence ▸ stronger
    refine ⟨before ++ s :: after, f, [], rfl, best, ?_, List.forall_mem_nil _⟩
    intro h member
    -- No earlier finding exceeds the strongest one, which the new one exceeds.
    have notAbove : lt s.confidence h.confidence = false := by
      rcases List.mem_append.mp member with earlier | later
      · exact OrderedArithmetic.lt_asymm (weaker h earlier)
      · rcases List.mem_cons.mp later with rfl | later
        · exact OrderedArithmetic.lt_irrefl h.confidence
        · exact notStronger h later
    have between := OrderedArithmetic.lt_or_lt above (numbers h member)
    rw [notAbove] at between
    exact between.resolve_left Bool.false_ne_true
  | false =>
    have best : g.Agrees (g.merge f) := by
      constructor <;> simp [Finding.merge, stronger]
    refine ⟨before, s, after ++ [f], by simp, agrees.trans best, weaker, ?_⟩
    intro h member
    rcases List.mem_append.mp member with earlier | here
    · exact notStronger h earlier
    · rw [List.mem_singleton.mp here, agrees.confidence]
      exact stronger

theorem FollowsStrongest.mergeAll [OrderedArithmetic α] {group : List (Finding α)} {g : Finding α}
    (numbers : ∀ h ∈ group, isNaN h.confidence = false) (merged : Finding.mergeAll group = some g) :
    FollowsStrongest group g := by
  induction group using List.reverseRecOn generalizing g with
  | nil => cases merged
  | append_singleton earlier f ih =>
    cases earlier with
    | nil =>
      cases merged
      exact ⟨[], f, [], rfl, ⟨rfl, rfl, rfl, rfl⟩, List.forall_mem_nil _, List.forall_mem_nil _⟩
    | cons h rest =>
      have before : Finding.mergeAll (h :: rest) = some (rest.foldl Finding.merge h) := rfl
      rw [Finding.mergeAll_concat before] at merged
      cases merged
      have numbers' := (List.forall_mem_append.mp numbers).1
      exact (ih numbers' before).concat numbers' f

/-! ## What is left -/

/-- What is left of the findings with one key. -/
structure MergedFrom (group : List (Finding α)) (g : Finding α) : Prop where
  /-- A finding that is alone is left as it is. -/
  alone : ∀ f, group = [f] → g = f
  strongest : FollowsStrongest group g
  sumsUp : 1 < group.length → SumsUp group g

/-- Of the findings with one key, which are those of one category and scope with the same signatures, a
single one is left. The keys keep their order, and what is left sums up the findings with its key. -/
theorem deduplicate_merges [OrderedArithmetic α] {findings : List (Finding α)}
    (numbers : ∀ f ∈ findings, isNaN f.confidence = false) :
    (∀ f g : Finding α, f.key = g.key ↔
        f.category = g.category ∧ f.scope = g.scope ∧ f.signatures.Perm g.signatures) ∧
      (deduplicate findings).map Finding.key = (findings.map Finding.key).eraseDups ∧
      ∀ g ∈ deduplicate findings, MergedFrom (findings.filter fun f => f.key = g.key) g := by
  refine ⟨fun _ _ => Finding.key_eq_iff, deduplicate_keys findings, ?_⟩
  intro g left
  have merged := deduplicate_group left
  constructor
  · intro f only
    rw [only] at merged
    exact (Option.some.inj merged).symm
  · refine .mergeAll ?_ merged
    intro f member
    exact numbers f (List.mem_filter.mp member).1
  · intro several
    refine .mergeAll ?_ merged
    intro f only
    rw [only] at several
    exact (Nat.lt_irrefl 1 several).elim

/-- Three findings on the same signatures, of which two are the strongest, and another one between them. -/
def interleaved : List (Finding Float) :=
  [⟨.c2, .procedure "main", 32, none, "weak", ["beacon", "shell"], 0.25, ["line 2"]⟩,
    ⟨.c2, .whole, 8, none, "alone", ["beacon"], 0.5, ["line 5", "line 4"]⟩,
    ⟨.c2, .procedure "main", 16, some "tied", "strong", ["shell", "beacon"], 0.75, ["line 1"]⟩,
    ⟨.c2, .procedure "main", 48, none, "late", ["beacon", "shell"], 0.75, ["line 2", "line 3"]⟩]

theorem deduplicate_merges_interleaved :
    (∀ f ∈ interleaved, isNaN f.confidence = false) ∧
      (∀ f g : Finding Float, f.key = g.key ↔
        f.category = g.category ∧ f.scope = g.scope ∧ f.signatures.Perm g.signatures) ∧
      (deduplicate interleaved).map Finding.key = (interleaved.map Finding.key).eraseDups ∧
      ∀ g ∈ deduplicate interleaved, MergedFrom (interleaved.filter fun f => f.key = g.key) g := by
  have numbers : ∀ f ∈ interleaved, isNaN f.confidence = false := by decide +kernel
  exact ⟨numbers, deduplicate_merges numbers⟩

end TechniqueScan
