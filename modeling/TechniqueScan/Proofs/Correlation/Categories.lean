import TechniqueScan.Proofs.Catalogue.Declared
import TechniqueScan.Proofs.Correlation.Findings

/-!
One category by itself. What is correlated in a category depends on the matches of that category and
on what the registry holds for it, but neither on other categories nor on absolute positions.
-/

namespace TechniqueScan

variable {α β γ : Type}

/-! ## Lists that correspond -/

/-- Two lists whose items correspond one by one, all pairs looking alike. -/
structure Paired (look : β → γ) (left right : List β) (pairs : List (β × β)) : Prop where
  fst : pairs.map Prod.fst = left
  snd : pairs.map Prod.snd = right
  alike : ∀ p ∈ pairs, look p.1 = look p.2

namespace Paired

variable {look : β → γ} {left right : List β} {pairs : List (β × β)}

theorem map_look (paired : Paired look left right pairs) : left.map look = right.map look := by
  rw [← paired.fst, ← paired.snd, List.map_map, List.map_map]
  exact List.map_congr_left paired.alike

theorem filter (paired : Paired look left right pairs) {keep : β → Bool}
    (respects : ∀ p ∈ pairs, keep p.1 = keep p.2) :
    Paired look (left.filter keep) (right.filter keep) (pairs.filter fun p => keep p.1) := by
  refine ⟨?_, ?_, fun p member => paired.alike p (List.mem_filter.mp member).1⟩
  · rw [← paired.fst, List.filter_map]
    rfl
  · rw [← paired.snd, List.filter_map]
    refine congrArg _ (List.filter_congr fun p member => ?_)
    exact respects p member

theorem mergeSort (paired : Paired look left right pairs) {le : β → β → Bool}
    (respects : ∀ p ∈ pairs, ∀ q ∈ pairs, le p.1 q.1 = le p.2 q.2) :
    Paired look (left.mergeSort le) (right.mergeSort le) (pairs.mergeSort fun p q => le p.1 q.1) := by
  refine ⟨?_, ?_, fun p member => paired.alike p (List.mem_mergeSort.mp member)⟩
  · rw [← paired.fst]
    exact List.map_mergeSort fun _ _ _ _ => rfl
  · rw [← paired.snd]
    exact List.map_mergeSort respects

/-- Lists that look alike and ascend by positions of their own correspond, and the positions compare
alike on both sides. -/
theorem of_ascending {position : β → Nat} (same : left.map look = right.map look)
    (ascends : left.Pairwise fun a b => position a < position b)
    (ascends' : right.Pairwise fun a b => position a < position b) :
    ∃ pairs, Paired look left right pairs ∧
      ∀ p ∈ pairs, ∀ q ∈ pairs, position p.1 ≤ position q.1 ↔ position p.2 ≤ position q.2 := by
  induction left generalizing right with
  | nil =>
    cases right with
    | nil => exact ⟨[], ⟨rfl, rfl, by simp⟩, by simp⟩
    | cons b rest => cases same
  | cons a left ih =>
    cases right with
    | nil => cases same
    | cons b right =>
      obtain ⟨first, later⟩ := List.cons.inj same
      obtain ⟨below, ascends⟩ := List.pairwise_cons.mp ascends
      obtain ⟨below', ascends'⟩ := List.pairwise_cons.mp ascends'
      obtain ⟨pairs, paired, ordered⟩ := ih later ascends ascends'
      have after (p : β × β) (member : p ∈ pairs) :
          position a < position p.1 ∧ position b < position p.2 := by
        refine ⟨below _ ?_, below' _ ?_⟩
        · rw [← paired.fst]
          exact List.mem_map_of_mem member
        · rw [← paired.snd]
          exact List.mem_map_of_mem member
      refine ⟨(a, b) :: pairs, ⟨?_, ?_, ?_⟩, ?_⟩
      · rw [List.map_cons, paired.fst]
      · rw [List.map_cons, paired.snd]
      · exact List.forall_mem_cons.mpr ⟨first, paired.alike⟩
      · intro p member q member'
        rcases List.mem_cons.mp member with rfl | member
        · rcases List.mem_cons.mp member' with rfl | member'
          · simp
          · have := after q member'
            dsimp only
            omega
        · rcases List.mem_cons.mp member' with rfl | member'
          · have := after p member
            dsimp only
            omega
          · exact ordered p member q member'

end Paired

/-! ## Selections -/

/-- A selection whatever the positions of its rules. -/
def Selection.unplaced (s : Selection α) : Selection α := { s with fired := s.fired.map Rule.unplaced }

namespace Selection

theorem overlaps_unplaced (site : Site) (s : Selection α) (r : Rule α) :
    s.unplaced.overlaps site r.unplaced = s.overlaps site r := rfl

theorem fire_unplaced (s : Selection α) (r : Rule α) :
    (s.fire r).unplaced = s.unplaced.fire r.unplaced := by
  simp [unplaced, fire, Rule.unplaced]

theorem consider_unplaced (site : Site) (s : Selection α) (r : Rule α) :
    (s.consider site r).unplaced = s.unplaced.consider site r.unplaced := by
  unfold consider
  rw [overlaps_unplaced]
  cases s.overlaps site r with
  | nil => exact fire_unplaced s r
  | cons c rest => rfl

/-- Which rules fire does not depend on positions beyond the order in which rules are considered. -/
theorem ofCandidates_unplaced (site : Site) (rules : List (Rule α)) :
    (ofCandidates site rules).unplaced = ofCandidates site (rules.map Rule.unplaced) := by
  induction rules using List.reverseRecOn with
  | nil => rfl
  | append_singleton considered r ih =>
    rw [ofCandidates_append, consider_unplaced, ih, List.map_append, List.map_singleton,
      ofCandidates_append]

end Selection

section

variable [Arithmetic α] {c : Category} {left right : Registry α}

theorem candidates_unplaced (consistent : left.Consistent) (consistent' : right.Consistent)
    (same : left.SameIn c right) (found : List RawMatch) :
    (candidates (left.rulesFor c) found).map Rule.unplaced =
      (candidates (right.rulesFor c) found).map Rule.unplaced := by
  obtain ⟨pairs, paired, ordered⟩ := Paired.of_ascending same.rules (consistent.rulesFor_ascends c)
    (consistent'.rulesFor_ascends c)
  have signatures (p : Rule α × Rule α) (member : p ∈ pairs) : p.1.signatures = p.2.signatures :=
    (Rule.eq_of_unplaced_eq (paired.alike p member)).2.2.1
  refine ((paired.filter ?_).mergeSort ?_).map_look
  · intro p member
    rw [signatures p member]
  · intro p member q member'
    have inside := (List.mem_filter.mp member).1
    have inside' := (List.mem_filter.mp member').1
    rw [Rule.precedes, Rule.precedes, signatures p inside, signatures q inside',
      decide_eq_decide.mpr (ordered p inside q inside')]

theorem selectionAt_unplaced (consistent : left.Consistent) (consistent' : right.Consistent)
    (same : left.SameIn c right) {site : Site} (own : site.category = c) (found : List RawMatch) :
    (selectionAt left site found).unplaced = (selectionAt right site found).unplaced := by
  unfold selectionAt
  rw [Selection.ofCandidates_unplaced, Selection.ofCandidates_unplaced]
  split
  · rw [own, candidates_unplaced consistent consistent' same]
  · rfl

/-! ## Findings -/

omit [Arithmetic α] in
/-- A contribution whatever the position of its signature. -/
def Contribution.unplaced (p : Contribution α) : Contribution α :=
  { p with signature := p.signature.map Signature.unplaced }

theorem Contribution.weight_unplaced (p : Contribution α) : p.unplaced.weight = p.weight := by
  obtain ⟨id, signature⟩ := p
  cases signature <;> rfl

omit [Arithmetic α] in
theorem Contribution.description_unplaced (p : Contribution α) :
    p.unplaced.signature.map (·.description) = p.signature.map (·.description) := by
  obtain ⟨id, signature⟩ := p
  cases signature <;> rfl

/-- Whether all matches are of signatures that the registry holds for a category. -/
def Registry.Knows (registry : Registry α) (c : Category) (members : List RawMatch) : Prop :=
  ∀ x ∈ members, ∃ s ∈ registry.signaturesFor c, s.id = x.signatureId

theorem contributions_unplaced (consistent : left.Consistent) (consistent' : right.Consistent)
    (same : left.SameIn c right) {members : List RawMatch} (known : left.Knows c members) :
    (contributions left members).map Contribution.unplaced =
      (contributions right members).map Contribution.unplaced := by
  obtain ⟨pairs, paired, ordered⟩ := Paired.of_ascending same.signatures
    (consistent.signaturesFor_ascends c) (consistent'.signaturesFor_ascends c)
  -- Each identifier names the two signatures of some pair.
  have named (id : String) (member : id ∈ ascending (members.map (·.signatureId))) :
      ∃ p ∈ pairs, left.signature? id = some p.1 ∧ right.signature? id = some p.2 := by
    obtain ⟨x, inside, rfl⟩ := List.mem_map.mp ((mem_ascending _ _).mp member)
    obtain ⟨s, listed, own⟩ := known x inside
    rw [← paired.fst] at listed
    obtain ⟨p, placed, rfl⟩ := List.mem_map.mp listed
    have first : p.1 ∈ left.signaturesFor c := paired.fst ▸ List.mem_map_of_mem placed
    have second : p.2 ∈ right.signaturesFor c := paired.snd ▸ List.mem_map_of_mem placed
    have alike : p.1.id = p.2.id := by
      have alike := congrArg Signature.id (paired.alike p placed)
      exact alike
    refine ⟨p, placed, ?_, ?_⟩
    · rw [← own, consistent.signature?_eq (List.mem_filter.mp first).1]
    · rw [← own, alike, consistent'.signature?_eq (List.mem_filter.mp second).1]
  have corresponding : Paired Contribution.unplaced
      ((ascending (members.map (·.signatureId))).map fun id =>
        (⟨id, left.signature? id⟩ : Contribution α))
      ((ascending (members.map (·.signatureId))).map fun id =>
        (⟨id, right.signature? id⟩ : Contribution α))
      ((ascending (members.map (·.signatureId))).map fun id =>
        (⟨id, left.signature? id⟩, ⟨id, right.signature? id⟩)) := by
    refine ⟨List.map_map .., List.map_map .., ?_⟩
    intro q member
    obtain ⟨id, listed, rfl⟩ := List.mem_map.mp member
    obtain ⟨p, placed, first, second⟩ := named id listed
    simp only [Contribution.unplaced, first, second, Option.map_some, paired.alike p placed]
  refine (corresponding.mergeSort ?_).map_look
  intro q member q' member'
  obtain ⟨id, listed, rfl⟩ := List.mem_map.mp member
  obtain ⟨id', listed', rfl⟩ := List.mem_map.mp member'
  obtain ⟨p, placed, first, second⟩ := named id listed
  obtain ⟨p', placed', first', second'⟩ := named id' listed'
  have forth := ordered p placed p' placed'
  have back := ordered p' placed' p placed
  have less : p.1.order < p'.1.order ↔ p.2.order < p'.2.order := by omega
  have equal : p.1.order = p'.1.order ↔ p.2.order = p'.2.order := by omega
  simp only [Contribution.precedes, first, first', second, second', less, equal]

theorem findingOf_unplaced {m : FactModel} {site : Site} {members : List RawMatch}
    (parts : (contributions left members).map Contribution.unplaced =
      (contributions right members).map Contribution.unplaced) {rule rule' : Option (Rule α)}
    (alike : rule.map Rule.unplaced = rule'.map Rule.unplaced) :
    findingOf left m site rule members = findingOf right m site rule' members := by
  have ids : (contributions left members).map (·.id) = (contributions right members).map (·.id) := by
    have ids := congrArg (List.map (·.id)) parts
    rwa [List.map_map, List.map_map] at ids
  have weights : (contributions left members).map (·.weight) =
      (contributions right members).map (·.weight) := by
    have weights := congrArg (List.map Contribution.weight) parts
    simpa only [List.map_map, Function.comp_def, Contribution.weight_unplaced] using weights
  have title : ((contributions left members).head?.bind (·.signature)).map (·.description) =
      ((contributions right members).head?.bind (·.signature)).map (·.description) := by
    have each (ps : List (Contribution α)) :
        (((ps.map Contribution.unplaced).head?.bind (·.signature)).map (·.description)) =
          (ps.head?.bind (·.signature)).map (·.description) := by
      cases ps with
      | nil => rfl
      | cons p rest => exact p.description_unplaced
    rw [← each (contributions left members), parts, each]
  cases rule with
  | none =>
    cases rule' with
    | none => simp only [findingOf, ids, weights, title]
    | some r' => cases alike
  | some r =>
    cases rule' with
    | none => cases alike
    | some r' =>
      obtain ⟨id, description, _, boost⟩ := Rule.eq_of_unplaced_eq (Option.some.inj alike)
      simp only [findingOf, ids, weights, Option.map_some, id, description, boost]

/-- What is correlated at a site of a category is settled by what the registry holds for it. -/
theorem correlateAt_eq (consistent : left.Consistent) (consistent' : right.Consistent)
    (same : left.SameIn c right) (m : FactModel) {site : Site} (own : site.category = c)
    {found : List RawMatch} (known : left.Knows c found) :
    correlateAt left m site found = correlateAt right m site found := by
  have selections := selectionAt_unplaced consistent consistent' same own found
  have conflicts := congrArg Selection.conflicts selections
  have fired := congrArg Selection.fired selections
  have claimed : (selectionAt left site found).claimed = (selectionAt right site found).claimed := by
    have claimed := congrArg Selection.claimed selections
    exact claimed
  have finding {rule rule' : Option (Rule α)} (alike : rule.map Rule.unplaced = rule'.map Rule.unplaced)
      {members : List RawMatch} (among : ∀ x ∈ members, x ∈ found) :
      findingOf left m site rule members = findingOf right m site rule' members :=
    findingOf_unplaced (contributions_unplaced consistent consistent' same
      fun x member => known x (among x member)) alike
  unfold correlateAt
  dsimp only
  congr 1
  congr 1
  · -- Both are what the fired rules make on the right, whatever their positions.
    have onLeft : (selectionAt left site found).fired.map (fun r => findingOf left m site (some r)
          (found.filter fun x => r.signatures.contains x.signatureId)) =
        ((selectionAt left site found).fired.map Rule.unplaced).map fun r =>
          findingOf right m site (some r) (found.filter fun x => r.signatures.contains x.signatureId) := by
      rw [List.map_map]
      exact List.map_congr_left fun r _ => finding rfl fun x member => (List.mem_filter.mp member).1
    have onRight : (selectionAt right site found).fired.map (fun r => findingOf right m site (some r)
          (found.filter fun x => r.signatures.contains x.signatureId)) =
        ((selectionAt right site found).fired.map Rule.unplaced).map fun r =>
          findingOf right m site (some r) (found.filter fun x => r.signatures.contains x.signatureId) := by
      rw [List.map_map]
      exact List.map_congr_left fun r _ => findingOf_unplaced rfl rfl
    rw [onLeft, onRight]
    exact congrArg _ fired
  · rw [claimed]
    refine List.map_congr_left fun x member => finding rfl ?_
    intro y only
    rw [List.mem_singleton.mp only]
    exact (List.mem_filter.mp member).1

/-! ## All sites of a category -/

omit [Arithmetic α] in
/-- The matches of a category, in their order. -/
def matchesOf (raw : List RawMatch) (c : Category) : List RawMatch :=
  raw.filter fun x => x.category = c

omit [Arithmetic α] in
theorem sites_filter (raw : List RawMatch) (c : Category) :
    (sites raw).filter (fun site => site.category = c) = sites (matchesOf raw c) := by
  rw [sites, ← ascending_filter, List.filter_map]
  rfl

omit [Arithmetic α] in
theorem matchesAt_matchesOf (raw : List RawMatch) {site : Site} {c : Category}
    (own : site.category = c) : matchesAt (matchesOf raw c) site = matchesAt raw site := by
  rw [matchesAt, matchesOf, List.filter_filter, matchesAt]
  refine List.filter_congr fun x _ => ?_
  by_cases here : x.site = site
  · have category : x.category = c := by rw [← own, ← here]; rfl
    simp [here, category]
  · simp [here]

omit [Arithmetic α] in
theorem mem_sites_matchesOf {raw : List RawMatch} {c : Category} {site : Site}
    (member : site ∈ sites (matchesOf raw c)) : site.category = c := by
  rw [← sites_filter] at member
  exact of_decide_eq_true (List.mem_filter.mp member).2

omit [Arithmetic α] in
/-- What the matches of each site make is, as far as it is of a category, what the matches of that
category make. -/
theorem flatMap_sites_filter {raw : List RawMatch} (group : Site → List RawMatch → List β)
    (category : β → Category)
    (own : ∀ site, ∀ b ∈ group site (matchesAt raw site), category b = site.category) (c : Category) :
    ((sites raw).flatMap fun site => group site (matchesAt raw site)).filter (fun b => category b = c) =
      (sites (matchesOf raw c)).flatMap fun site => group site (matchesAt (matchesOf raw c) site) := by
  have kind : ∀ site ∈ sites raw, ∀ b ∈ group site (matchesAt raw site),
      decide (category b = c) = decide (site.category = c) := by
    intro site _ b member
    rw [own site b member]
  rw [flatMap_filter_kind kind, sites_filter]
  refine List.flatMap_congr fun site member => ?_
  rw [matchesAt_matchesOf raw (mem_sites_matchesOf member)]

/-- The findings of a category are those that its own matches make. -/
theorem correlate_findings_category (registry : Registry α) (m : FactModel) (raw : List RawMatch)
    (c : Category) : (correlate registry m raw).findings.filter (fun f => f.category = c) =
      (correlate registry m (matchesOf raw c)).findings := by
  rw [correlate_findings_eq, correlate_findings_eq]
  refine flatMap_sites_filter (fun site found => (correlateAt registry m site found).findings)
    (fun f => f.category) (fun site f member => ?_) c
  exact congrArg Site.category (correlateAt_findings_site registry m site _ f member)

/-- The conflicts of a category are those that its own matches make. -/
theorem Registry.Consistent.correlate_conflicts_category {registry : Registry α}
    (consistent : registry.Consistent) (m : FactModel) (raw : List RawMatch) (c : Category) :
    (correlate registry m raw).conflicts.filter (fun x => x.category = c) =
      (correlate registry m (matchesOf raw c)).conflicts := by
  rw [correlate_conflicts_eq, correlate_conflicts_eq]
  refine flatMap_sites_filter (fun site found => (correlateAt registry m site found).conflicts)
    (fun x => x.category) (fun site x member => ?_) c
  exact congrArg Site.category (consistent.correlateAt_conflicts_site m raw site x member)

/-- Matches of a category are correlated alike by registries that hold the same for it. -/
theorem correlate_eq (consistent : left.Consistent) (consistent' : right.Consistent)
    (same : left.SameIn c right) (m : FactModel) {raw : List RawMatch}
    (own : ∀ x ∈ raw, x.category = c) (known : left.Knows c raw) :
    correlate left m raw = correlate right m raw := by
  have each : ∀ site ∈ sites raw,
      correlateAt left m site (matchesAt raw site) = correlateAt right m site (matchesAt raw site) := by
    intro site member
    obtain ⟨x, listed, rfl⟩ := (mem_sites raw site).mp member
    refine correlateAt_eq consistent consistent' same m (own x listed) ?_
    intro y here
    exact known y ((mem_matchesAt raw _ y).mp here).1
  simp only [correlate, List.map_congr_left each]

end

end TechniqueScan
