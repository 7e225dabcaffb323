import TechniqueScan.Proofs.Correlation.Sites
import TechniqueScan.Proofs.Scoring

/-!
The signatures behind findings. A finding rests on exactly the signatures of its matches, each once,
and two findings of a site that share a signature have one key.
-/

namespace TechniqueScan

variable {α : Type}

/-! ## One finding -/

theorem contributions_ids_perm (registry : Registry α) (members : List RawMatch) :
    ((contributions registry members).map (·.id)).Perm
      (ascending (members.map (·.signatureId))) := by
  have perm := (List.mergeSort_perm ((ascending (members.map (·.signatureId))).map fun id =>
    (⟨id, registry.signature? id⟩ : Contribution α)) Contribution.precedes).map (·.id)
  have ids (texts : List String) : (texts.map fun id =>
      (⟨id, registry.signature? id⟩ : Contribution α)).map (·.id) = texts := by
    rw [List.map_map]
    exact List.map_id texts
  rwa [ids] at perm

/-- What contributes to a finding is looked up by its identifier. -/
theorem mem_contributions (registry : Registry α) {members : List RawMatch} {p : Contribution α} :
    p ∈ contributions registry members ↔
      ∃ x ∈ members, p = ⟨x.signatureId, registry.signature? x.signatureId⟩ := by
  rw [contributions, List.mem_mergeSort, List.mem_map]
  constructor
  · rintro ⟨id, listed, rfl⟩
    obtain ⟨x, inside, rfl⟩ := List.mem_map.mp ((mem_ascending ..).mp listed)
    exact ⟨x, inside, rfl⟩
  · rintro ⟨x, inside, rfl⟩
    exact ⟨x.signatureId, (mem_ascending ..).mpr (List.mem_map_of_mem inside), rfl⟩

theorem contributions_single (registry : Registry α) (x : RawMatch) :
    contributions registry [x] = [⟨x.signatureId, registry.signature? x.signatureId⟩] := by
  simp [contributions, ascending, dropRepeats]

variable [Arithmetic α] (registry : Registry α) (m : FactModel) (site : Site)

theorem findingOf_signatures (rule : Option (Rule α)) (members : List RawMatch) :
    (findingOf registry m site rule members).signatures =
      (contributions registry members).map (·.id) := rfl

theorem mem_findingOf_signatures (rule : Option (Rule α)) (members : List RawMatch) (id : String) :
    id ∈ (findingOf registry m site rule members).signatures ↔ ∃ x ∈ members, x.signatureId = id := by
  rw [findingOf_signatures, (contributions_ids_perm registry members).mem_iff, mem_ascending, List.mem_map]

theorem findingOf_signatures_nodup (rule : Option (Rule α)) (members : List RawMatch) :
    (findingOf registry m site rule members).signatures.Nodup :=
  (contributions_ids_perm registry members).nodup_iff.mpr (ascending_nodup _)

theorem findingOf_evidence_ascends (rule : Option (Rule α)) (members : List RawMatch) :
    StrictlyAscending (findingOf registry m site rule members).evidence :=
  ascending_strictlyAscending _

theorem mem_findingOf_evidence (rule : Option (Rule α)) (members : List RawMatch) (line : String) :
    line ∈ (findingOf registry m site rule members).evidence ↔
      ∃ x ∈ members, ∃ i ∈ x.facts, ∃ f, m.fact? i = some f ∧ f.describe = line := by
  have evidence : (findingOf registry m site rule members).evidence =
      ascending (members.flatMap fun x => x.facts.filterMap fun i => (m.fact? i).map Fact.describe) := rfl
  rw [evidence, mem_ascending]
  simp only [List.mem_flatMap, List.mem_filterMap, Option.map_eq_some_iff]

omit [Arithmetic α] in
theorem lowestAddress_lowest {members : List RawMatch} (filled : members ≠ []) :
    (∃ x ∈ members, x.location.address = lowestAddress members) ∧
      ∀ x ∈ members, lowestAddress members ≤ x.location.address := by
  cases members with
  | nil => exact (filled rfl).elim
  | cons x rest =>
    have folded : lowestAddress (x :: rest) = (rest.map (·.location.address)).foldl
        (fun least b => if b < least then b else least) x.location.address := by
      rw [List.foldl_map]
      rfl
    obtain ⟨reached, lowest⟩ := foldl_least x.location.address (rest.map (·.location.address))
    rw [folded]
    exact ⟨List.mem_map.mp reached, fun y member =>
      lowest _ (List.mem_map_of_mem (f := fun x : RawMatch => x.location.address) member)⟩

omit [Arithmetic α] in
theorem contributions_congr {members others : List RawMatch}
    (same : ∀ id, (∃ x ∈ members, x.signatureId = id) ↔ ∃ x ∈ others, x.signatureId = id) :
    contributions registry members = contributions registry others := by
  have ids : ascending (members.map (·.signatureId)) = ascending (others.map (·.signatureId)) := by
    refine ascending_congr fun id => ?_
    rw [List.mem_map, List.mem_map, same]
  rw [contributions, contributions, ids]

/-- A finding depends only on which matches it is made of. -/
theorem findingOf_congr (rule : Option (Rule α)) {members others : List RawMatch}
    (same : ∀ x, x ∈ members ↔ x ∈ others) :
    findingOf registry m site rule members = findingOf registry m site rule others := by
  have parts : contributions registry members = contributions registry others :=
    contributions_congr registry fun id => exists_congr fun x => and_congr_left' (same x)
  have evidence : evidenceOf m members = evidenceOf m others := by
    refine ascending_congr fun line => ?_
    simp only [List.mem_flatMap, same]
  have address : lowestAddress members = lowestAddress others := by
    by_cases filled : members = []
    · subst filled
      rw [List.eq_nil_iff_forall_not_mem.mpr fun x member => List.not_mem_nil ((same x).mpr member)]
    · have filled' : others ≠ [] := by
        obtain ⟨x, member⟩ := List.exists_mem_of_ne_nil _ filled
        exact List.ne_nil_of_mem ((same x).mp member)
      obtain ⟨⟨x, inside, reached⟩, lowest⟩ := lowestAddress_lowest filled
      obtain ⟨⟨x', inside', reached'⟩, lowest'⟩ := lowestAddress_lowest filled'
      refine UInt64.le_antisymm ?_ ?_
      · exact reached' ▸ lowest x' ((same x').mpr inside')
      · exact reached ▸ lowest' x ((same x).mp inside)
  simp only [findingOf, parts, evidence, address]

/-- Single matches of one signature say the same. -/
theorem findingOf_single_agrees {x y : RawMatch} (same : x.signatureId = y.signatureId) :
    (findingOf registry m site none [x]).Agrees (findingOf registry m site none [y]) := by
  have parts : contributions registry [x] = contributions registry [y] :=
    contributions_congr registry fun id => by simp [same]
  constructor <;> simp only [findingOf, parts]

/-! ## The findings of a site -/

/-- A finding of a site is that of a fired rule, whose signatures are its own, or that of a match
which no fired rule ties. -/
theorem correlateAt_cases {found : List RawMatch} {f : Finding α}
    (member : f ∈ (correlateAt registry m site found).findings) :
    (∃ r ∈ (selectionAt registry site found).fired,
        f = findingOf registry m site (some r) (found.filter fun x => x.signatureId ∈ r.signatures) ∧
          ∀ id ∈ f.signatures, id ∈ r.signatures) ∨
      ∃ x ∈ found, (∀ r ∈ (selectionAt registry site found).fired, x.signatureId ∉ r.signatures) ∧
        f = findingOf registry m site none [x] ∧ ∀ id ∈ f.signatures, id = x.signatureId := by
  rw [correlateAt_findings] at member
  rcases List.mem_append.mp member with tied | single
  · obtain ⟨r, fired, rfl⟩ := List.mem_map.mp tied
    refine .inl ⟨r, fired, rfl, ?_⟩
    intro id listed
    obtain ⟨x, inside, rfl⟩ := (mem_findingOf_signatures ..).mp listed
    simpa using (List.mem_filter.mp inside).2
  · obtain ⟨x, inside, rfl⟩ := List.mem_map.mp single
    obtain ⟨here, free⟩ := List.mem_filter.mp inside
    refine .inr ⟨x, here, of_decide_eq_true free, rfl, ?_⟩
    intro id listed
    obtain ⟨y, only, rfl⟩ := (mem_findingOf_signatures ..).mp listed
    rw [List.mem_singleton.mp only]

/-- A rule that fires makes a finding of all matches of its signatures. -/
theorem correlateAt_of_fired {found : List RawMatch} {r : Rule α}
    (fired : r ∈ (selectionAt registry site found).fired) :
    findingOf registry m site (some r) (found.filter fun x => x.signatureId ∈ r.signatures) ∈
      (correlateAt registry m site found).findings := by
  rw [correlateAt_findings]
  exact List.mem_append_left _ (List.mem_map_of_mem fired)

theorem correlateAt_signatures_nodup {found : List RawMatch} {f : Finding α}
    (member : f ∈ (correlateAt registry m site found).findings) : f.signatures.Nodup := by
  rcases correlateAt_cases registry m site member with ⟨r, _, rfl, _⟩ | ⟨x, _, _, rfl, _⟩
  · exact findingOf_signatures_nodup ..
  · exact findingOf_signatures_nodup ..

/-- Every match of a site is part of a finding of it. -/
theorem correlateAt_covers {found : List RawMatch} {x : RawMatch} (inside : x ∈ found) :
    ∃ rule members, findingOf registry m site rule members ∈ (correlateAt registry m site found).findings ∧
      x ∈ members ∧ ∀ y ∈ members, y ∈ found := by
  by_cases free : ∀ r ∈ (selectionAt registry site found).fired, x.signatureId ∉ r.signatures
  · refine ⟨none, [x], ?_, List.mem_singleton_self x, List.forall_mem_singleton.mpr inside⟩
    rw [correlateAt_findings]
    exact List.mem_append_right _ (List.mem_map_of_mem (List.mem_filter.mpr ⟨inside, decide_eq_true free⟩))
  · simp only [not_forall, not_not] at free
    obtain ⟨r, fired, listed⟩ := free
    exact ⟨some r, _, correlateAt_of_fired registry m site fired,
      List.mem_filter.mpr ⟨inside, decide_eq_true listed⟩, fun y kept => (List.mem_filter.mp kept).1⟩

/-- The signatures behind the findings of a site are those that were found there. -/
theorem mem_correlateAt_signatures (found : List RawMatch) (id : String) :
    (∃ f ∈ (correlateAt registry m site found).findings, id ∈ f.signatures) ↔
      ∃ x ∈ found, x.signatureId = id := by
  constructor
  · rintro ⟨f, member, listed⟩
    rcases correlateAt_cases registry m site member with ⟨r, _, rfl, _⟩ | ⟨x, here, _, rfl, only⟩
    · obtain ⟨x, inside, same⟩ := (mem_findingOf_signatures ..).mp listed
      exact ⟨x, (List.mem_filter.mp inside).1, same⟩
    · exact ⟨x, here, (only id listed).symm⟩
  · rintro ⟨x, inside, rfl⟩
    obtain ⟨rule, members, made, here, _⟩ := correlateAt_covers registry m site inside
    exact ⟨_, made, (mem_findingOf_signatures ..).mpr ⟨x, here, rfl⟩⟩

namespace Registry.Consistent

variable {registry : Registry α} (consistent : registry.Consistent) (raw : List RawMatch)

include consistent

theorem fired_candidate {r : Rule α}
    (fired : r ∈ (selectionAt registry site (matchesAt raw site)).fired) :
    Candidate registry raw site r :=
  (mem_consideredAt registry raw site r).mp
    ((consistent.selectionAt_chosen raw site).choice.sublist.subset fired)

/-- A rule that fires ties matches of exactly its signatures. -/
theorem exists_fired_member_iff {r : Rule α}
    (fired : r ∈ (selectionAt registry site (matchesAt raw site)).fired) (id : String) :
    (∃ x ∈ (matchesAt raw site).filter (fun x => x.signatureId ∈ r.signatures), x.signatureId = id) ↔
      id ∈ r.signatures := by
  constructor
  · rintro ⟨x, inside, rfl⟩
    exact of_decide_eq_true (List.mem_filter.mp inside).2
  · intro listed
    obtain ⟨x, found, here, same⟩ := (consistent.fired_candidate site raw fired).occur id listed
    refine ⟨x, List.mem_filter.mpr ⟨(mem_matchesAt raw site x).mpr ⟨found, here⟩, ?_⟩, same⟩
    exact decide_eq_true (same ▸ listed)

/-- The finding of a rule that fires rests on exactly the signatures of the rule. -/
theorem mem_fired_signatures {r : Rule α}
    (fired : r ∈ (selectionAt registry site (matchesAt raw site)).fired) (id : String) :
    id ∈ (findingOf registry m site (some r)
        ((matchesAt raw site).filter fun x => x.signatureId ∈ r.signatures)).signatures ↔
      id ∈ r.signatures := by
  rw [mem_findingOf_signatures, consistent.exists_fired_member_iff site raw fired]

theorem fired_members_ne_nil {r : Rule α}
    (fired : r ∈ (selectionAt registry site (matchesAt raw site)).fired) :
    ((matchesAt raw site).filter fun x => x.signatureId ∈ r.signatures) ≠ [] := by
  have declared := (consistent.fired_candidate site raw fired).declared
  have several := (consistent.ruleValidated r declared).several
  obtain ⟨id, listed⟩ := List.exists_mem_of_length_pos (by omega : 0 < r.signatures.length)
  obtain ⟨x, inside, _⟩ := (consistent.exists_fired_member_iff site raw fired id).mpr listed
  exact List.ne_nil_of_mem inside

/-- A finding of a site is made of matches of that site, of one at least. -/
theorem correlateAt_made {f : Finding α}
    (member : f ∈ (correlateAt registry m site (matchesAt raw site)).findings) :
    ∃ rule members, f = findingOf registry m site rule members ∧ members ≠ [] ∧
      ∀ x ∈ members, x ∈ matchesAt raw site := by
  rcases correlateAt_cases registry m site member with ⟨r, fired, rfl, _⟩ | ⟨x, here, _, rfl, _⟩
  · exact ⟨some r, _, rfl, consistent.fired_members_ne_nil site raw fired,
      fun y kept => (List.mem_filter.mp kept).1⟩
  · exact ⟨none, [x], rfl, List.cons_ne_nil _ _, List.forall_mem_singleton.mpr here⟩

theorem correlateAt_signatures_ne_nil {f : Finding α}
    (member : f ∈ (correlateAt registry m site (matchesAt raw site)).findings) : f.signatures ≠ [] := by
  obtain ⟨rule, members, rfl, filled, _⟩ := consistent.correlateAt_made m site raw member
  obtain ⟨x, inside⟩ := List.exists_mem_of_ne_nil _ filled
  exact List.ne_nil_of_mem ((mem_findingOf_signatures ..).mpr ⟨x, inside, rfl⟩)

end Registry.Consistent

/-- Findings of a site that share a signature say the same. -/
theorem Registry.Consistent.agrees_of_shared {registry : Registry α} (consistent : registry.Consistent)
    (m : FactModel) (raw : List RawMatch) (site : Site) {f g : Finding α} {id : String}
    (left : f ∈ (correlateAt registry m site (matchesAt raw site)).findings)
    (right : g ∈ (correlateAt registry m site (matchesAt raw site)).findings)
    (inLeft : id ∈ f.signatures) (inRight : id ∈ g.signatures) : f.Agrees g := by
  have disjoint := (consistent.selectionAt_chosen raw site).disjoint
  rcases correlateAt_cases registry m site left with
    ⟨r, fired, same, own⟩ | ⟨x, _, free, same, own⟩
  · rcases correlateAt_cases registry m site right with
      ⟨r', fired', same', own'⟩ | ⟨y, _, free', _, own'⟩
    · by_cases equal : r = r'
      · have equal : f = g := by rw [same, same', equal]
        rw [equal]
        exact ⟨rfl, rfl, rfl, rfl⟩
      · have overlap : r.Overlaps r' := ⟨id, own id inLeft, own' id inRight⟩
        exact (disjoint.forall fired fired' equal overlap).elim
    · rw [own' id inRight] at inLeft
      exact (free' r fired (own _ inLeft)).elim
  · rcases correlateAt_cases registry m site right with
      ⟨r', fired', _, own'⟩ | ⟨y, _, _, same', own'⟩
    · rw [own id inLeft] at inRight
      exact (free r' fired' (own' _ inRight)).elim
    · rw [same, same']
      exact findingOf_single_agrees registry m site ((own id inLeft).symm.trans (own' id inRight))

/-- Findings of a site that share a signature are equal up to merging. -/
theorem Registry.Consistent.key_eq_of_shared {registry : Registry α} (consistent : registry.Consistent)
    (m : FactModel) (raw : List RawMatch) (site : Site) {f g : Finding α} {id : String}
    (left : f ∈ (correlateAt registry m site (matchesAt raw site)).findings)
    (right : g ∈ (correlateAt registry m site (matchesAt raw site)).findings)
    (inLeft : id ∈ f.signatures) (inRight : id ∈ g.signatures) : f.key = g.key := by
  have agrees := consistent.agrees_of_shared m raw site left right inLeft inRight
  have here := (correlateAt_findings_site registry m site _ f left).trans
    (correlateAt_findings_site registry m site _ g right).symm
  have scope : f.scope = g.scope := congrArg Site.scope here
  have category : f.category = g.category := congrArg Site.category here
  rw [Finding.key, Finding.key, scope, category, agrees.signatures]

end TechniqueScan
