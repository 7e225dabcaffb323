import TechniqueScan.Proofs.Scoring

/-!
What is left of a group. Merging leaves for each key the findings with that key, merged one after the
other; their evidence is put together, and the lowest of their addresses is kept.
-/

namespace TechniqueScan

variable {α : Type} [Arithmetic α]

/-! ## Groups of one key -/

namespace Finding

/-- Some findings merged one after the other into the first of them. -/
def mergeAll : List (Finding α) → Option (Finding α)
  | [] => none
  | f :: rest => some (rest.foldl merge f)

theorem mergeAll_concat {group : List (Finding α)} {g : Finding α} (merged : mergeAll group = some g)
    (f : Finding α) : mergeAll (group ++ [f]) = some (g.merge f) := by
  cases group with
  | nil => cases merged
  | cons h rest =>
    cases merged
    simp only [List.cons_append, mergeAll, List.foldl_append, List.foldl_cons, List.foldl_nil]

end Finding

theorem mergeAll_of_mem_foldl {findings : List (Finding α)} {e : FindingKey × Finding α}
    (member : e ∈ findings.foldl (fun kept f => absorb f.key f kept) []) :
    Finding.mergeAll (findings.filter fun f => f.key = e.1) = some e.2 := by
  induction findings using List.reverseRecOn generalizing e with
  | nil => cases member
  | append_singleton earlier f ih =>
    have held := merged_foldl earlier
    rw [List.foldl_append, List.foldl_cons, List.foldl_nil] at member
    rw [List.filter_append]
    rcases mem_absorb held.distinct member with ⟨old, other⟩ | ⟨rfl, absent⟩ | ⟨g, old, rfl⟩
    · rw [List.filter_singleton, decide_eq_false (Ne.symm other), cond_false, List.append_nil]
      exact ih old
    · have none : earlier.filter (fun h => h.key = f.key) = [] := by
        refine List.filter_eq_nil_iff.mpr fun h inside same => absent ?_
        rw [← of_decide_eq_true same]
        exact held.covered h inside
      rw [none, List.filter_singleton, decide_eq_true rfl]
      rfl
    · rw [List.filter_singleton, decide_eq_true rfl]
      exact Finding.mergeAll_concat (ih old) f

/-- What is left of a key are the findings with that key, merged in their order. -/
theorem deduplicate_group {findings : List (Finding α)} {g : Finding α}
    (left : g ∈ deduplicate findings) :
    Finding.mergeAll (findings.filter fun f => f.key = g.key) = some g := by
  obtain ⟨e, kept, rfl⟩ := List.mem_map.mp left
  rw [(merged_foldl findings).keyed e kept]
  exact mergeAll_of_mem_foldl kept

/-! ## What a group amounts to -/

/-- A finding that puts together the evidence of some findings and keeps the lowest of their
addresses. -/
structure SumsUp (group : List (Finding α)) (g : Finding α) : Prop where
  ascends : StrictlyAscending g.evidence
  mem_evidence : ∀ line, line ∈ g.evidence ↔ ∃ f ∈ group, line ∈ f.evidence
  reached : ∃ f ∈ group, f.address = g.address
  lowest : ∀ f ∈ group, g.address ≤ f.address

namespace SumsUp

omit [Arithmetic α] in
theorem single {f : Finding α} (ascends : StrictlyAscending f.evidence) : SumsUp [f] f := by
  refine ⟨ascends, ?_, ⟨f, List.mem_singleton_self f, rfl⟩, ?_⟩
  · intro line
    simp
  · intro g member
    rw [List.mem_singleton.mp member]
    exact UInt64.le_refl _

/-- What shows all that a group shows, merged with one more finding. -/
theorem merge {group : List (Finding α)} {g : Finding α}
    (shown : ∀ line, line ∈ g.evidence ↔ ∃ f ∈ group, line ∈ f.evidence)
    (reached : ∃ f ∈ group, f.address = g.address) (lowest : ∀ f ∈ group, g.address ≤ f.address)
    (f : Finding α) : SumsUp (group ++ [f]) (g.merge f) := by
  have address : (g.merge f).address = if f.address < g.address then f.address else g.address := rfl
  refine ⟨ascending_strictlyAscending _, ?_, ?_, ?_⟩
  · intro line
    have evidence : (g.merge f).evidence = ascending (g.evidence ++ f.evidence) := rfl
    rw [evidence, mem_ascending, List.mem_append, shown]
    simp only [List.mem_append, List.mem_singleton, or_and_right, exists_or, exists_eq_left]
  · rw [address]
    split
    · exact ⟨f, List.mem_append_right _ (List.mem_singleton_self f), rfl⟩
    · obtain ⟨h, inside, same⟩ := reached
      exact ⟨h, List.mem_append_left _ inside, same⟩
  · intro h member
    rw [address]
    rcases List.mem_append.mp member with earlier | here
    · have atMost := lowest h earlier
      split
      · rename_i lower
        exact UInt64.le_trans (UInt64.le_of_lt lower) atMost
      · exact atMost
    · rw [List.mem_singleton.mp here]
      split
      · exact UInt64.le_refl _
      · rename_i notLower
        exact UInt64.not_lt.mp notLower

/-- Merging puts the evidence in order, so only a finding that is left as it is has to have it so. -/
theorem mergeAll {group : List (Finding α)}
    (ascends : ∀ f, group = [f] → StrictlyAscending f.evidence)
    {g : Finding α} (merged : Finding.mergeAll group = some g) : SumsUp group g := by
  induction group using List.reverseRecOn generalizing g with
  | nil => cases merged
  | append_singleton earlier f ih =>
    cases earlier with
    | nil =>
      cases merged
      exact single (ascends f rfl)
    | cons h rest =>
      have before : Finding.mergeAll (h :: rest) = some (rest.foldl Finding.merge h) := rfl
      rw [Finding.mergeAll_concat before] at merged
      cases merged
      cases rest with
      | nil => exact merge (by simp) ⟨h, List.mem_singleton_self h, rfl⟩ (by simp) f
      | cons h' rest =>
        have sums := ih (by simp) before
        exact merge sums.mem_evidence sums.reached sums.lowest f

omit [Arithmetic α] in
theorem address_le {group others : List (Finding α)} {g h : Finding α} (sums : SumsUp group g)
    (sums' : SumsUp others h) (listed : ∀ f ∈ others, f ∈ group) : g.address ≤ h.address := by
  obtain ⟨f, inside, reached⟩ := sums'.reached
  exact reached ▸ sums.lowest f (listed f inside)

omit [Arithmetic α] in
/-- What findings amount to does not depend on their order. -/
theorem eq_of_perm {group others : List (Finding α)} (perm : group.Perm others) {g h : Finding α}
    (sums : SumsUp group g) (sums' : SumsUp others h) :
    g.evidence = h.evidence ∧ g.address = h.address := by
  constructor
  · refine strictlyAscending_ext sums.ascends sums'.ascends fun line => ?_
    rw [sums.mem_evidence, sums'.mem_evidence]
    exact exists_congr fun f => and_congr_left' perm.mem_iff
  · exact UInt64.le_antisymm (sums.address_le sums' fun f => perm.mem_iff.mpr)
      (sums'.address_le sums fun f => perm.mem_iff.mp)

end SumsUp

/-- A finding that is left sums up the findings with its key. -/
theorem deduplicate_sumsUp {findings : List (Finding α)}
    (ascends : ∀ f ∈ findings, StrictlyAscending f.evidence) {g : Finding α}
    (left : g ∈ deduplicate findings) : SumsUp (findings.filter fun f => f.key = g.key) g :=
  .mergeAll (fun f only => ascends f (List.mem_of_mem_filter (only ▸ List.mem_singleton_self f)))
    (deduplicate_group left)

/-! ## Reordering -/

/-- Where findings with one key agree, what is left does not depend on their order. -/
theorem mem_deduplicate_of_perm {findings others : List (Finding α)} (perm : findings.Perm others)
    (ascends : ∀ f ∈ findings, StrictlyAscending f.evidence)
    (agree : ∀ f ∈ findings, ∀ g ∈ findings, f.key = g.key → f.Agrees g) {g : Finding α}
    (left : g ∈ deduplicate findings) : g ∈ deduplicate others := by
  obtain ⟨f, origin, key, agrees⟩ := deduplicate_rests left
  obtain ⟨g', left', same⟩ := deduplicate_covers (perm.mem_iff.mp origin)
  obtain ⟨f', origin', key', agrees'⟩ := deduplicate_rests left'
  have between : g.Agrees g' := by
    have linked := agree f origin f' (perm.mem_iff.mpr origin') (by rw [key', same])
    exact agrees.symm.trans (linked.trans agrees')
  have place : g'.key = g.key := same.trans key
  have sums := deduplicate_sumsUp ascends left
  have sums' := deduplicate_sumsUp (fun f member => ascends f (perm.mem_iff.mpr member)) left'
  rw [place] at sums'
  obtain ⟨evidence, address⟩ := sums.eq_of_perm (perm.filter _) sums'
  rw [between.eq place.symm address evidence]
  exact left'

theorem deduplicate_perm {findings others : List (Finding α)} (perm : findings.Perm others)
    (ascends : ∀ f ∈ findings, StrictlyAscending f.evidence)
    (agree : ∀ f ∈ findings, ∀ g ∈ findings, f.key = g.key → f.Agrees g) :
    (deduplicate findings).Perm (deduplicate others) := by
  have once (findings : List (Finding α)) := List.Nodup.of_map _ (deduplicate_keys_nodup findings)
  refine (List.perm_ext_iff_of_nodup (once findings) (once others)).mpr fun g => ⟨?_, ?_⟩
  · exact mem_deduplicate_of_perm perm ascends agree
  · refine mem_deduplicate_of_perm perm.symm (fun f member => ascends f (perm.mem_iff.mpr member)) ?_
    intro f member f' member'
    exact agree f (perm.mem_iff.mpr member) f' (perm.mem_iff.mpr member')

end TechniqueScan
