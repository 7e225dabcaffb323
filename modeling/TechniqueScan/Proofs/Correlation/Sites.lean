import TechniqueScan.Proofs.Correlation.Selection
import TechniqueScan.Proofs.Grouping
import TechniqueScan.Proofs.Order

/-!
What correlating makes of a site. The candidates of a site are considered by their size and then as
they are declared; the greedy choice among them gives the findings and the conflicts of the site, and
nothing else is found there.
-/

namespace TechniqueScan

variable {α : Type}

def Finding.site (f : Finding α) : Site := ⟨f.scope, f.category⟩

def RuleConflict.site (c : RuleConflict) : Site := ⟨c.scope, c.category⟩

theorem mem_matchesAt (raw : List RawMatch) (site : Site) (x : RawMatch) :
    x ∈ matchesAt raw site ↔ x ∈ raw ∧ x.site = site := by
  rw [matchesAt, List.mem_filter, decide_eq_true_iff]

theorem mem_sites (raw : List RawMatch) (site : Site) :
    site ∈ sites raw ↔ ∃ x ∈ raw, x.site = site := by
  rw [sites, mem_ascending, List.mem_map]

/-! ## The order in which rules are considered -/

namespace Registry

/-- Whether a rule is declared before another one. -/
def DeclaredBefore (registry : Registry α) (a b : Rule α) : Prop :=
  ∃ i j : Nat, i < j ∧ registry.rules[i]? = some a ∧ registry.rules[j]? = some b

/-- Rules with more signatures come first, among equals those declared first. -/
def ConsideredBefore (registry : Registry α) (a b : Rule α) : Prop :=
  b.signatures.length < a.signatures.length ∨
    a.signatures.length = b.signatures.length ∧ registry.DeclaredBefore a b

namespace Consistent

variable [Arithmetic α] {registry : Registry α} (consistent : registry.Consistent)

include consistent

theorem order_eq {i : Nat} {r : Rule α} (placed : registry.rules[i]? = some r) : r.order = i := by
  have ordered : (registry.rules.map (·.order))[i]? = some r.order := by
    rw [List.getElem?_map, placed, Option.map_some]
  rw [consistent.ruleOrders] at ordered
  obtain ⟨_, same⟩ := List.getElem?_eq_some_iff.mp ordered
  rw [← same, List.getElem_range]

theorem declaredBefore_iff {a b : Rule α} (left : a ∈ registry.rules) (right : b ∈ registry.rules) :
    registry.DeclaredBefore a b ↔ a.order < b.order := by
  constructor
  · rintro ⟨i, j, before, placed, placed'⟩
    rwa [consistent.order_eq placed, consistent.order_eq placed']
  · intro before
    obtain ⟨i, placed⟩ := List.mem_iff_getElem?.mp left
    obtain ⟨j, placed'⟩ := List.mem_iff_getElem?.mp right
    rw [consistent.order_eq placed, consistent.order_eq placed'] at before
    exact ⟨i, j, before, placed, placed'⟩

theorem consideredBefore_asymm (a b : Rule α) (forth : registry.ConsideredBefore a b) :
    ¬ registry.ConsideredBefore b a := by
  rcases forth with more | ⟨same, i, j, before, placed, placed'⟩
  · rintro (less | ⟨same, _⟩) <;> omega
  · rintro (less | ⟨_, k, l, after, placed'', placed'''⟩)
    · omega
    · have first := consistent.order_eq placed
      have second := consistent.order_eq placed'
      rw [consistent.order_eq placed''] at second
      rw [consistent.order_eq placed'''] at first
      omega

theorem consideredBefore_of_precedes {a b : Rule α} (left : a ∈ registry.rules)
    (right : b ∈ registry.rules) (different : a ≠ b) (precedes : a.precedes b) :
    registry.ConsideredBefore a b := by
  simp only [Rule.precedes, Bool.or_eq_true, Bool.and_eq_true, decide_eq_true_eq] at precedes
  rcases precedes with more | ⟨same, notAfter⟩
  · exact .inl more
  · refine .inr ⟨same, (consistent.declaredBefore_iff left right).mpr ?_⟩
    refine Nat.lt_of_le_of_ne notAfter ?_
    intro equal
    obtain ⟨i, placed⟩ := List.mem_iff_getElem?.mp left
    obtain ⟨j, placed'⟩ := List.mem_iff_getElem?.mp right
    rw [consistent.order_eq placed, consistent.order_eq placed'] at equal
    rw [equal, placed'] at placed
    exact different (Option.some.inj placed).symm

end Consistent

end Registry

theorem precedes_pairwise_mergeSort (rules : List (Rule α)) :
    (rules.mergeSort Rule.precedes).Pairwise fun a b => a.precedes b := by
  refine List.pairwise_mergeSort ?_ ?_ rules
  · intro a b c
    simp only [Rule.precedes, Bool.or_eq_true, Bool.and_eq_true, decide_eq_true_eq]
    omega
  · intro a b
    simp only [Rule.precedes, Bool.or_eq_true, Bool.and_eq_true, decide_eq_true_eq]
    omega

/-! ## Candidates -/

/-- A rule of the site's category whose signatures all occur at the site, which is a procedure. -/
structure Candidate (registry : Registry α) (raw : List RawMatch) (site : Site) (r : Rule α) : Prop where
  declared : r ∈ registry.rules
  own : r.category = site.category
  inProcedure : site.scope.isProcedure
  occur : ∀ id ∈ r.signatures, ∃ x ∈ raw, x.site = site ∧ x.signatureId = id

/-- The rules considered at a site, in that order. -/
def consideredAt (registry : Registry α) (site : Site) (found : List RawMatch) : List (Rule α) :=
  candidates (if site.scope.isProcedure then registry.rulesFor site.category else []) found

theorem mem_consideredAt (registry : Registry α) (raw : List RawMatch) (site : Site) (r : Rule α) :
    r ∈ consideredAt registry site (matchesAt raw site) ↔ Candidate registry raw site r := by
  have occur : (r.signatures.all fun id => (matchesAt raw site).any fun x => x.signatureId = id) ↔
      ∀ id ∈ r.signatures, ∃ x ∈ raw, x.site = site ∧ x.signatureId = id := by
    simp only [List.all_eq_true, List.any_eq_true, mem_matchesAt, decide_eq_true_eq, and_assoc]
  rw [consideredAt, candidates, List.mem_mergeSort, List.mem_filter, occur]
  by_cases inProcedure : site.scope.isProcedure
  · rw [if_pos inProcedure, Registry.rulesFor, List.mem_filter, decide_eq_true_iff]
    constructor
    · rintro ⟨⟨declared, own⟩, occur⟩
      exact ⟨declared, own, inProcedure, occur⟩
    · rintro ⟨declared, own, _, occur⟩
      exact ⟨⟨declared, own⟩, occur⟩
  · rw [if_neg inProcedure]
    constructor
    · rintro ⟨⟨⟩, _⟩
    · rintro ⟨_, _, inside, _⟩
      exact (inProcedure inside).elim

theorem consideredAt_declared (registry : Registry α) (raw : List RawMatch) (site : Site) :
    ∀ r ∈ consideredAt registry site (matchesAt raw site), r ∈ registry.rules := fun r member =>
  ((mem_consideredAt registry raw site r).mp member).declared

namespace Registry.Consistent

variable [Arithmetic α] {registry : Registry α} (consistent : registry.Consistent)

include consistent

theorem consideredAt_ids (site : Site) (found : List RawMatch) :
    ((consideredAt registry site found).map (·.id)).Nodup := by
  have sub : (if site.scope.isProcedure then registry.rulesFor site.category else []).Sublist
      registry.rules := by
    split
    · exact List.filter_sublist
    · exact List.nil_sublist _
  have perm := List.mergeSort_perm ((if site.scope.isProcedure then registry.rulesFor site.category
    else []).filter fun r => r.signatures.all fun id => found.any fun x => x.signatureId = id)
    Rule.precedes
  exact (perm.map _).nodup_iff.mpr (consistent.ruleIds.sublist ((List.filter_sublist.trans sub).map _))

theorem consideredAt_ordered (raw : List RawMatch) (site : Site) :
    (consideredAt registry site (matchesAt raw site)).Pairwise registry.ConsideredBefore := by
  have nodup := List.Nodup.of_map _ (consistent.consideredAt_ids site (matchesAt raw site))
  have sorted : (consideredAt registry site (matchesAt raw site)).Pairwise fun a b => a.precedes b :=
    precedes_pairwise_mergeSort _
  refine List.Pairwise.imp_of_mem ?_ (nodup.and sorted)
  rintro a b left right ⟨different, precedes⟩
  have declared := consideredAt_declared registry raw site
  exact consistent.consideredBefore_of_precedes (declared a left) (declared b right) different precedes

theorem selectionAt_chosen (raw : List RawMatch) (site : Site) :
    Selection.Chosen registry.ConsideredBefore site (consideredAt registry site (matchesAt raw site))
      (selectionAt registry site (matchesAt raw site)) := by
  refine Selection.Chosen.ofCandidates consistent.consideredBefore_asymm site
    (consistent.consideredAt_ordered raw site) (consistent.consideredAt_ids site _) ?_
  intro r member
  exact (consistent.ruleValidated r (consideredAt_declared registry raw site r member)).signatures_nodup

end Registry.Consistent

/-! ## What is found at a site -/

section

variable [Arithmetic α]

theorem correlateAt_findings (registry : Registry α) (m : FactModel) (site : Site)
    (found : List RawMatch) :
    (correlateAt registry m site found).findings =
      (selectionAt registry site found).fired.map (fun r => findingOf registry m site (some r)
        (found.filter fun x => x.signatureId ∈ r.signatures)) ++
      (found.filter fun x => ∀ r ∈ (selectionAt registry site found).fired,
        x.signatureId ∉ r.signatures).map fun x => findingOf registry m site none [x] := by
  have free (x : RawMatch) : (!(selectionAt registry site found).claimed.contains x.signatureId) =
      decide (∀ r ∈ (selectionAt registry site found).fired, x.signatureId ∉ r.signatures) := by
    have claims : (selectionAt registry site found).Claims := Selection.claims_ofCandidates site _
    rw [Bool.eq_iff_iff, Bool.not_eq_true', ← Bool.not_eq_true, claims.contains_iff, decide_eq_true_iff]
    simp only [not_exists, not_and]
  simp only [correlateAt, free, List.contains_eq_mem]

theorem correlateAt_findings_site (registry : Registry α) (m : FactModel) (site : Site)
    (found : List RawMatch) : ∀ f ∈ (correlateAt registry m site found).findings, f.site = site := by
  intro f member
  rw [correlateAt_findings] at member
  rcases List.mem_append.mp member with tied | single
  · obtain ⟨r, _, rfl⟩ := List.mem_map.mp tied
    rfl
  · obtain ⟨x, _, rfl⟩ := List.mem_map.mp single
    rfl

theorem correlate_findings_eq (registry : Registry α) (m : FactModel) (raw : List RawMatch) :
    (correlate registry m raw).findings =
      (sites raw).flatMap fun site => (correlateAt registry m site (matchesAt raw site)).findings :=
  List.flatMap_map ..

theorem correlate_conflicts_eq (registry : Registry α) (m : FactModel) (raw : List RawMatch) :
    (correlate registry m raw).conflicts =
      (sites raw).flatMap fun site => (correlateAt registry m site (matchesAt raw site)).conflicts :=
  List.flatMap_map ..

namespace Registry.Consistent

variable {registry : Registry α} (consistent : registry.Consistent) (m : FactModel)

include consistent

theorem consideredAt_nil (site : Site) : consideredAt registry site [] = [] := by
  refine List.eq_nil_iff_forall_not_mem.mpr fun r member => ?_
  obtain ⟨declared, _, _, occur⟩ := (mem_consideredAt registry [] site r).mp member
  have several := (consistent.ruleValidated r declared).several
  obtain ⟨id, listed⟩ := List.exists_mem_of_length_pos (by omega : 0 < r.signatures.length)
  obtain ⟨x, none, _⟩ := occur id listed
  cases none

theorem correlateAt_nil (site : Site) : correlateAt registry m site [] = ⟨[], []⟩ := by
  have none : selectionAt registry site [] = {} := by
    have same : selectionAt registry site [] =
      Selection.ofCandidates site (consideredAt registry site []) := rfl
    rw [same, consistent.consideredAt_nil]
    rfl
  simp [correlateAt, none]

theorem correlateAt_conflicts_site (raw : List RawMatch) (site : Site) :
    ∀ c ∈ (correlateAt registry m site (matchesAt raw site)).conflicts, c.site = site := by
  intro c member
  obtain ⟨r, _, f, _, _, id, _, _, rfl⟩ :=
    ((consistent.selectionAt_chosen raw site).mem_conflicts c).mp member
  rfl

omit consistent in
theorem sites_nodup (raw : List RawMatch) : (sites raw).Nodup := ascending_nodup _

theorem absent (raw : List RawMatch) {site : Site} (none : site ∉ sites raw) :
    correlateAt registry m site (matchesAt raw site) = ⟨[], []⟩ := by
  have empty : matchesAt raw site = [] := by
    refine List.eq_nil_iff_forall_not_mem.mpr fun x member => none ?_
    exact (mem_sites raw site).mpr ⟨x, (mem_matchesAt raw site x).mp member⟩
  rw [empty, consistent.correlateAt_nil]

/-- What is found at a site depends on the matches of that site only. -/
theorem correlate_findings (raw : List RawMatch) (site : Site) :
    (correlate registry m raw).findings.filter (fun f => f.site = site) =
      (correlateAt registry m site (matchesAt raw site)).findings := by
  rw [correlate_findings_eq]
  refine flatMap_filter_key_total (fun site => correlateAt_findings_site registry m site _)
    (sites_nodup raw) ?_ site
  intro site none
  rw [consistent.absent m raw none]

/-- A finding is made by the matches of its own site. -/
theorem mem_correlate {raw : List RawMatch} {f : Finding α} :
    f ∈ (correlate registry m raw).findings ↔
      f ∈ (correlateAt registry m f.site (matchesAt raw f.site)).findings := by
  rw [← consistent.correlate_findings, List.mem_filter, decide_eq_true_iff]
  exact (and_iff_left rfl).symm

theorem correlate_conflicts (raw : List RawMatch) (site : Site) :
    (correlate registry m raw).conflicts.filter (fun c => c.site = site) =
      (correlateAt registry m site (matchesAt raw site)).conflicts := by
  rw [correlate_conflicts_eq]
  refine flatMap_filter_key_total (consistent.correlateAt_conflicts_site m raw) (sites_nodup raw)
    ?_ site
  intro site none
  rw [consistent.absent m raw none]

/-- The conflicts of a site are those of the choice among its rules. -/
theorem mem_correlate_conflicts {raw : List RawMatch} {site : Site} {c : RuleConflict} :
    c ∈ (correlate registry m raw).conflicts ∧ c.site = site ↔
      c ∈ (selectionAt registry site (matchesAt raw site)).conflicts := by
  have made : (selectionAt registry site (matchesAt raw site)).conflicts =
      (correlateAt registry m site (matchesAt raw site)).conflicts := rfl
  rw [made, ← consistent.correlate_conflicts m, List.mem_filter, decide_eq_true_iff]

end Registry.Consistent

end

end TechniqueScan
