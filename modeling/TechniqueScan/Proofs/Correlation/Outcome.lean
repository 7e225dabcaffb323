import TechniqueScan.Proofs.Correlation.Registered
import TechniqueScan.Proofs.FactModel

/-!
The whole outcome of a site. The greedy choice among the candidates settles the findings and the
conflicts of the site: a rule that fires makes one finding, which lists the signatures of the rule and
covers all their matches, and a match that no fired rule ties stands alone.
-/

namespace TechniqueScan

variable {α : Type}

/-! ## What a finding tells -/

/-- A finding of a site that covers some matches: it shows all their facts and nothing else, and stands
at the lowest of their addresses. -/
structure Finding.Covers (m : FactModel) (site : Site) (covered : RawMatch → Prop) (f : Finding α) :
    Prop where
  here : f.site = site
  evidence_ascends : StrictlyAscending f.evidence
  mem_evidence : ∀ line, line ∈ f.evidence ↔
    ∃ x, covered x ∧ ∃ i ∈ x.facts, ∃ g, m.fact? i = some g ∧ g.describe = line
  reached : ∃ x, covered x ∧ x.location.address = f.address
  lowest : ∀ x, covered x → f.address ≤ x.location.address

theorem Finding.Covers.of_iff {m : FactModel} {site : Site} {covered others : RawMatch → Prop}
    {f : Finding α} (covers : f.Covers m site covered) (same : ∀ x, covered x ↔ others x) :
    f.Covers m site others := by
  have equal : covered = others := funext fun x => propext (same x)
  rwa [← equal]

variable [Arithmetic α]

/-- A finding that a rule ties together: it lists the signatures of the rule, each once and as the
registry lists them, and covers all their matches at the site. -/
structure TiesTogether (registry : Registry α) (m : FactModel) (raw : List RawMatch) (site : Site)
    (r : Rule α) (f : Finding α) : Prop where
  rule : f.rule = some r.id
  title : f.title = r.description
  mem_signatures : ∀ id, id ∈ f.signatures ↔ id ∈ r.signatures
  signatures : f.signatures = (registry.signatures.filter fun s => s.id ∈ r.signatures).map (·.id)
  confidence : f.confidence = confidenceFor
    ((registry.signatures.filter fun s => s.id ∈ r.signatures).map (·.weight)) r.boost
  covers : f.Covers m site fun x => x ∈ raw ∧ x.site = site ∧ x.signatureId ∈ r.signatures

/-- A finding on one match by itself. A signature that the registry does not know has no title and
weighs nothing. -/
structure StandsAlone (registry : Registry α) (m : FactModel) (site : Site) (x : RawMatch)
    (f : Finding α) : Prop where
  rule : f.rule = none
  title : f.title = ((registry.signature? x.signatureId).map (·.description)).getD ""
  signatures : f.signatures = [x.signatureId]
  confidence : f.confidence = confidenceFor
    [((registry.signature? x.signatureId).map (·.weight)).getD (Arithmetic.ofNat 0)] (Arithmetic.ofNat 0)
  covers : f.Covers m site (· = x)

theorem findingOf_covers (registry : Registry α) (m : FactModel) (site : Site) (rule : Option (Rule α))
    {members : List RawMatch} (filled : members ≠ []) :
    (findingOf registry m site rule members).Covers m site (· ∈ members) := by
  obtain ⟨reached, lowest⟩ := lowestAddress_lowest filled
  constructor
  · rfl
  · exact findingOf_evidence_ascends registry m site rule members
  · exact mem_findingOf_evidence registry m site rule members
  · exact reached
  · exact lowest

theorem findingOf_standsAlone (registry : Registry α) (m : FactModel) (site : Site) (x : RawMatch) :
    StandsAlone registry m site x (findingOf registry m site none [x]) := by
  constructor
  · rfl
  · simp only [findingOf, contributions_single, List.head?_cons, Option.bind_some]
  · exact findingOf_single_signatures registry m site none x
  · simp only [findingOf, contributions_single, List.map_singleton, Contribution.weight, Option.map_none,
      Option.getD_none]
  · have filled : [x] ≠ [] := List.cons_ne_nil x []
    exact (findingOf_covers registry m site none filled).of_iff fun y => List.mem_singleton

namespace Registry.Consistent

variable {registry : Registry α} (consistent : registry.Consistent)

include consistent

/-- The signatures of a rule are of its category, wherever the registry lists them. -/
theorem signatures_filter {r : Rule α} (declared : r ∈ registry.rules) :
    (registry.signaturesFor r.category).filter (fun s => s.id ∈ r.signatures) =
      registry.signatures.filter fun s => s.id ∈ r.signatures := by
  rw [Registry.signaturesFor, signaturesOf, List.filter_filter]
  refine List.filter_congr fun s member => ?_
  by_cases listed : s.id ∈ r.signatures
  · obtain ⟨t, member', same, own⟩ := consistent.resolved r declared s.id listed
    obtain rfl : t = s := List.inj_on_of_nodup_map consistent.ids member' member same
    simp [own]
  · simp [listed]

/-- The finding of a rule that fires tells the rule and covers all matches of its signatures. -/
theorem fired_tiesTogether (m : FactModel) (raw : List RawMatch) (site : Site) {r : Rule α}
    (fired : r ∈ (selectionAt registry site (matchesAt raw site)).fired) :
    TiesTogether registry m raw site r (findingOf registry m site (some r)
      ((matchesAt raw site).filter fun x => x.signatureId ∈ r.signatures)) := by
  have declared := (consistent.fired_candidate site raw fired).declared
  have known := consistent.fired_known site raw fired
  have matched := consistent.fired_matchedIn site raw fired
  rw [consistent.signatures_filter declared] at matched
  constructor
  · rfl
  · rfl
  · exact consistent.mem_fired_signatures m site raw fired
  · rw [consistent.findingOf_signatures_eq m site (some r) known, matched]
  · rw [consistent.findingOf_confidence m site (some r) known, matched]
    rfl
  · have filled := consistent.fired_members_ne_nil site raw fired
    refine (findingOf_covers registry m site (some r) filled).of_iff fun x => ?_
    rw [List.mem_filter, mem_matchesAt, decide_eq_true_iff, and_assoc]

end Registry.Consistent

/-! ## The outcome -/

/-- The outcome of correlating at a site, with the rules considered there and those that fire. -/
structure SiteOutcome (registry : Registry α) (m : FactModel) (raw : List RawMatch) (site : Site)
    (considered fired : List (Rule α)) (outcome : Correlation α) : Prop where
  mem_considered : ∀ r, r ∈ considered ↔ Candidate registry raw site r
  ordered : considered.Pairwise registry.ConsideredBefore
  greedy : GreedyChoice registry.ConsideredBefore considered fired
  unique : ∀ other, GreedyChoice registry.ConsideredBefore considered other → other = fired
  disjoint : fired.Pairwise fun a b => ¬ a.Overlaps b
  /-- A finding for each fired rule, on all matches of its signatures, then one for each match that
  no fired rule ties. -/
  findings : outcome.findings.filter (fun f => f.site = site) =
    fired.map (fun r => findingOf registry m site (some r)
      ((matchesAt raw site).filter fun x => x.signatureId ∈ r.signatures)) ++
    ((matchesAt raw site).filter fun x => ∀ r ∈ fired, x.signatureId ∉ r.signatures).map fun x =>
      findingOf registry m site none [x]
  /-- What these findings tell, in the same order. -/
  told : ∃ tied alone, outcome.findings.filter (fun f => f.site = site) = tied ++ alone ∧
    List.Forall₂ (TiesTogether registry m raw site) fired tied ∧
    List.Forall₂ (StandsAlone registry m site)
      ((matchesAt raw site).filter fun x => ∀ r ∈ fired, x.signatureId ∉ r.signatures) alone
  conflicts_nodup : (outcome.conflicts.filter fun c => c.site = site).Nodup
  mem_conflicts : ∀ c, c ∈ outcome.conflicts ∧ c.site = site ↔
    ∃ r ∈ considered, r ∉ fired ∧ ∃ f ∈ fired, registry.ConsideredBefore f r ∧
      ∃ id ∈ r.signatures, id ∈ f.signatures ∧ conflictOf site f r id = c
  accounted : ∀ r ∈ considered, r ∈ fired ∨ ∃ c ∈ outcome.conflicts, c.site = site ∧ c.dropped = r.id

/-- Correlating with an accepted registry makes the greedy choice at every site. -/
theorem correlate_exactly {registry : Registry α} (accepted : registry.Accepted) (m : FactModel)
    (raw : List RawMatch) (site : Site) :
    ∃ considered fired, SiteOutcome registry m raw site considered fired (correlate registry m raw) := by
  have consistent := accepted.consistent
  have chosen := consistent.selectionAt_chosen raw site
  have conflicts := consistent.correlate_conflicts m raw site
  have findings := consistent.correlate_findings m raw site
  rw [correlateAt_findings] at findings
  refine ⟨consideredAt registry site (matchesAt raw site),
    (selectionAt registry site (matchesAt raw site)).fired, ?_⟩
  constructor
  case mem_considered => exact mem_consideredAt registry raw site
  case ordered => exact consistent.consideredAt_ordered raw site
  case greedy => exact chosen.choice
  case unique =>
    intro other greedy
    exact greedy.unique consistent.consideredBefore_asymm (consistent.consideredAt_ordered raw site)
      chosen.choice
  case disjoint => exact chosen.disjoint
  case findings => exact findings
  case told =>
    refine ⟨_, _, findings, ?_, ?_⟩
    · refine List.forall₂_map_right_iff.mpr (List.forall₂_same.mpr fun r fired => ?_)
      exact consistent.fired_tiesTogether m raw site fired
    · refine List.forall₂_map_right_iff.mpr (List.forall₂_same.mpr fun x _ => ?_)
      exact findingOf_standsAlone registry m site x
  case conflicts_nodup =>
    rw [conflicts]
    exact chosen.conflicts_nodup
  case mem_conflicts =>
    intro c
    rw [consistent.mem_correlate_conflicts, chosen.mem_conflicts]
    refine exists_congr fun r => and_congr_right fun considered => ?_
    constructor
    · rintro ⟨f, fired, reached, id, listed, shared, same⟩
      refine ⟨?_, f, fired, reached, id, listed, shared, same⟩
      intro fires
      exact (chosen.choice.fires_iff r considered).mp fires f fired reached ⟨id, listed, shared⟩
    · rintro ⟨_, conflict⟩
      exact conflict
  case accounted =>
    intro r considered
    rcases chosen.accounted considered with fires | ⟨f, id, conflict⟩
    · exact .inl fires
    · obtain ⟨member, own⟩ := (consistent.mem_correlate_conflicts m).mpr conflict
      exact .inr ⟨conflictOf site f r id, member, own, rfl⟩

/-! ## Two rules that contend for a signature -/

open Registry (decoyRegistry decoyRule guardedRule)

theorem decoyRegistry_rules {r : Rule Rat} (declared : r ∈ decoyRegistry.rules) :
    r = decoyRule ∨ r = guardedRule := by
  simpa [decoyRegistry, Registry.decoyDraft] using declared

theorem decoyRule_before : decoyRegistry.ConsideredBefore decoyRule guardedRule :=
  .inr ⟨rfl, 0, 1, Nat.zero_lt_one, rfl, rfl⟩

theorem guardedRule_overlaps : guardedRule.Overlaps decoyRule := ⟨"probe", by decide, by decide⟩

section

variable {considered fired : List (Rule Rat)}
  (greedy : GreedyChoice decoyRegistry.ConsideredBefore considered fired)
  (declared : ∀ r ∈ considered, r ∈ decoyRegistry.rules)

include greedy declared

/-- The weaker rule fires wherever it is considered. -/
theorem decoyRule_fires (here : decoyRule ∈ considered) : decoyRule ∈ fired :=
  greedy.first_fires Registry.decoyRegistry_accepted.consistent.consideredBefore_asymm
    (fun r member => decoyRegistry_rules (declared r member)) decoyRule_before here

/-- The stronger rule fires where it is considered and the weaker one does not fire. -/
theorem guardedRule_fires_iff (here : guardedRule ∈ considered) :
    guardedRule ∈ fired ↔ decoyRule ∉ fired :=
  greedy.second_fires_iff Registry.decoyRegistry_accepted.consistent.consideredBefore_asymm
    (fun r member => decoyRegistry_rules (declared r member)) decoyRule_before guardedRule_overlaps here

end

def decoyedCalls : List Fact :=
  [⟨⟨.procedure "main", 12⟩, .symbol "ptrace" .imported, none⟩,
    ⟨⟨.procedure "main", 16⟩, .symbol "sysctl" .imported, none⟩,
    ⟨⟨.procedure "main", 20⟩, .symbol "dtrace" .imported, none⟩]

/-- A binary that imports what all signatures of the catalogue ask for. -/
def decoyedSample : FactModel := .ofFacts "sample" decoyedCalls

theorem decoyedSample_fact? (i : Nat) : decoyedSample.fact? i = decoyedCalls[i]? := by
  have normal : decoyedCalls.map Fact.normal = decoyedCalls := by decide
  have ascends : StrictlyAscending decoyedCalls := by
    rw [StrictlyAscending]
    decide
  rw [decoyedSample, FactModel.ofFacts_fact?, normal, ascending_of_strictlyAscending ascends]

/-- Matches of all signatures in one procedure, of one of them twice, beside a match of a signature that
the registry does not know and one in no procedure. -/
def contendingMatches : List RawMatch :=
  [⟨"trace", .antiDebug, ⟨.procedure "main", 20⟩, [2]⟩,
    ⟨"probe", .antiDebug, ⟨.procedure "main", 16⟩, [1]⟩,
    ⟨"lost", .antiDebug, ⟨.procedure "main", 4⟩, [0]⟩,
    ⟨"deny", .antiDebug, ⟨.procedure "main", 12⟩, [0]⟩,
    ⟨"probe", .antiDebug, ⟨.procedure "main", 8⟩, [1, 2]⟩,
    ⟨"deny", .antiDebug, ⟨.whole, 0⟩, [0]⟩]

theorem contendingMatches_candidate {r : Rule Rat} (declared : r ∈ decoyRegistry.rules) :
    Candidate decoyRegistry contendingMatches ⟨.procedure "main", .antiDebug⟩ r := by
  rcases decoyRegistry_rules declared with rfl | rfl
  · exact ⟨declared, rfl, rfl, by decide⟩
  · exact ⟨declared, rfl, rfl, by decide⟩

/-- The weaker rule ties matches of both its signatures, and the facts of all of them show. -/
theorem contendingMatches_tied :
    ∃ f ∈ (correlate decoyRegistry decoyedSample contendingMatches).findings,
      f.rule = some "decoy" ∧ f.address = 8 ∧ "0x00000010 [main] import symbol 'sysctl'" ∈ f.evidence := by
  have consistent := Registry.decoyRegistry_accepted.consistent
  have considered := (mem_consideredAt decoyRegistry contendingMatches _ decoyRule).mpr
    (contendingMatches_candidate List.mem_cons_self)
  have fires := decoyRule_fires (consistent.selectionAt_chosen contendingMatches _).choice
    (consideredAt_declared _ _ _) considered
  have told := consistent.fired_tiesTogether decoyedSample contendingMatches _ fires
  refine ⟨_, (consistent.mem_correlate decoyedSample).mpr
    (correlateAt_of_fired decoyRegistry decoyedSample _ fires), told.rule, ?_, ?_⟩
  · have bounded : ∀ x ∈ contendingMatches, x.site = ⟨.procedure "main", .antiDebug⟩ →
        x.signatureId ∈ decoyRule.signatures → 8 ≤ x.location.address := by decide
    obtain ⟨x, ⟨listed, here, own⟩, same⟩ := told.covers.reached
    refine UInt64.le_antisymm ?_ ?_
    · exact told.covers.lowest contendingMatches[4] (by decide)
    · rw [← same]
      exact bounded x listed here own
  · have found : decoyedSample.fact? 1 = some decoyedCalls[1] := decoyedSample_fact? 1
    have described : decoyedCalls[1].describe = "0x00000010 [main] import symbol 'sysctl'" := by decide
    exact (told.covers.mem_evidence _).mpr
      ⟨contendingMatches[1], by decide, 1, List.mem_singleton_self 1, _, found, described⟩

theorem correlate_exactly_contending :
    decoyRegistry.Accepted ∧
      (∃ f ∈ (correlate decoyRegistry decoyedSample contendingMatches).findings,
        f.rule = some "decoy" ∧ f.address = 8 ∧
          "0x00000010 [main] import symbol 'sysctl'" ∈ f.evidence) ∧
      ∃ considered fired,
        SiteOutcome decoyRegistry decoyedSample contendingMatches ⟨.procedure "main", .antiDebug⟩
            considered fired (correlate decoyRegistry decoyedSample contendingMatches) ∧
          decoyRule ∈ fired ∧ guardedRule ∈ considered ∧ guardedRule ∉ fired := by
  have accepted := Registry.decoyRegistry_accepted
  obtain ⟨considered, fired, outcome⟩ :=
    correlate_exactly accepted decoyedSample contendingMatches ⟨.procedure "main", .antiDebug⟩
  have declared (r : Rule Rat) (member : r ∈ considered) : r ∈ decoyRegistry.rules :=
    ((outcome.mem_considered r).mp member).declared
  have reached (r : Rule Rat) (listed : r ∈ decoyRegistry.rules) : r ∈ considered :=
    (outcome.mem_considered r).mpr (contendingMatches_candidate listed)
  have guarded := reached guardedRule (List.mem_cons_of_mem _ List.mem_cons_self)
  have fires := decoyRule_fires outcome.greedy declared (reached decoyRule List.mem_cons_self)
  refine ⟨accepted, contendingMatches_tied, considered, fired, outcome, fires, guarded, ?_⟩
  intro fires'
  exact (guardedRule_fires_iff outcome.greedy declared guarded).mp fires' fires

end TechniqueScan
