import Mathlib.Data.List.Perm.Basic
import TechniqueScan.Proofs.Correlation.Outcome
import TechniqueScan.Proofs.Scoring.Ranking

/-!
Matches in another order. Which rules fire depends only on which signatures occur, a rule's finding
only on which matches it ties, and single matches of one signature are merged, so that neither the
conflicts nor the scored findings tell in which order matches were found.
-/

namespace TechniqueScan

open Std (TransCmp)

variable {α : Type}

/-! ## One site -/

theorem selectionAt_of_perm (registry : Registry α) (site : Site) {found others : List RawMatch}
    (perm : found.Perm others) : selectionAt registry site found = selectionAt registry site others := by
  unfold selectionAt candidates
  simp only [perm.any_eq]

variable [Arithmetic α]

theorem correlateAt_of_perm (registry : Registry α) (m : FactModel) (site : Site)
    {found others : List RawMatch} (perm : found.Perm others) :
    (correlateAt registry m site found).conflicts = (correlateAt registry m site others).conflicts ∧
      (correlateAt registry m site found).findings.Perm
        (correlateAt registry m site others).findings := by
  have selected := selectionAt_of_perm registry site perm
  constructor
  · exact congrArg Selection.conflicts selected
  · rw [correlateAt_findings, correlateAt_findings, selected]
    refine List.Perm.append ?_ ((perm.filter _).map _)
    refine List.Perm.of_eq (List.map_congr_left fun r _ => ?_)
    exact findingOf_congr registry m site (some r) fun x => (perm.filter _).mem_iff

/-! ## All sites -/

omit [Arithmetic α] in
theorem sites_of_perm {raw others : List RawMatch} (perm : raw.Perm others) :
    sites raw = sites others :=
  ascending_congr fun _ => (perm.map RawMatch.site).mem_iff

theorem correlate_of_perm (registry : Registry α) (m : FactModel) {raw others : List RawMatch}
    (perm : raw.Perm others) :
    (correlate registry m raw).conflicts = (correlate registry m others).conflicts ∧
      (correlate registry m raw).findings.Perm (correlate registry m others).findings := by
  have each (site : Site) := correlateAt_of_perm registry m site (perm.filter fun x => x.site = site)
  constructor
  · rw [correlate_conflicts_eq, correlate_conflicts_eq, sites_of_perm perm]
    exact List.flatMap_congr fun site _ => (each site).1
  · rw [correlate_findings_eq, correlate_findings_eq, sites_of_perm perm]
    exact List.Perm.flatMap_left _ fun site _ => (each site).2

theorem correlate_evidence_ascends (registry : Registry α) (m : FactModel) (raw : List RawMatch) :
    ∀ f ∈ (correlate registry m raw).findings, StrictlyAscending f.evidence := by
  intro f member
  rw [correlate_findings_eq] at member
  obtain ⟨site, _, inside⟩ := List.mem_flatMap.mp member
  rcases correlateAt_cases registry m site inside with ⟨r, _, rfl, _⟩ | ⟨x, _, _, rfl, _⟩
  · exact findingOf_evidence_ascends ..
  · exact findingOf_evidence_ascends ..

/-- Findings that are equal up to merging say the same. -/
theorem Registry.Consistent.agrees_of_key_eq {registry : Registry α} (consistent : registry.Consistent)
    (m : FactModel) (raw : List RawMatch) :
    ∀ f ∈ (correlate registry m raw).findings, ∀ g ∈ (correlate registry m raw).findings,
      f.key = g.key → f.Agrees g := by
  intro f member g member' same
  have scope : f.scope = g.scope := congrArg FindingKey.scope same
  have category : f.category = g.category := congrArg FindingKey.category same
  have here : g.site = f.site := by rw [Finding.site, Finding.site, scope, category]
  have left := consistent.mem_correlate m |>.mp member
  have right := consistent.mem_correlate m |>.mp member'
  rw [here] at right
  obtain ⟨id, listed⟩ := List.exists_mem_of_ne_nil _
    (consistent.correlateAt_signatures_ne_nil m f.site raw left)
  exact consistent.agrees_of_shared m raw f.site left right listed
    ((Finding.perm_of_key_eq same).mem_iff.mp listed)

/-- Correlating matches and scoring what is found does not depend on the order of the matches. -/
theorem scoreAll_correlate_of_perm [TransCmp (@Arithmetic.compareTotal α _)] {registry : Registry α}
    (accepted : registry.Accepted) (m : FactModel) {raw others : List RawMatch}
    (perm : raw.Perm others) (minConfidence : α) (parallel parallel' : Bool) :
    (correlate registry m raw).conflicts = (correlate registry m others).conflicts ∧
      scoreAll minConfidence (correlate registry m raw).findings parallel =
        scoreAll minConfidence (correlate registry m others).findings parallel' := by
  obtain ⟨conflicts, findings⟩ := correlate_of_perm registry m perm
  refine ⟨conflicts, ?_⟩
  exact scoreAll_eq_of_perm findings (correlate_evidence_ascends registry m raw)
    (accepted.consistent.agrees_of_key_eq m raw) minConfidence parallel parallel'

theorem scoreAll_correlate_of_perm_contending :
    Registry.decoyRegistry.Accepted ∧ contendingMatches.Perm contendingMatches.reverse ∧
      (∃ f ∈ (correlate Registry.decoyRegistry decoyedSample contendingMatches).findings,
        f.rule = some "decoy" ∧ f.address = 8 ∧
          "0x00000010 [main] import symbol 'sysctl'" ∈ f.evidence) ∧
      (correlate Registry.decoyRegistry decoyedSample contendingMatches).conflicts =
        (correlate Registry.decoyRegistry decoyedSample contendingMatches.reverse).conflicts ∧
      scoreAll 0 (correlate Registry.decoyRegistry decoyedSample contendingMatches).findings true =
        scoreAll 0
          (correlate Registry.decoyRegistry decoyedSample contendingMatches.reverse).findings false := by
  have perm : contendingMatches.Perm contendingMatches.reverse := (List.reverse_perm _).symm
  exact ⟨Registry.decoyRegistry_accepted, perm, contendingMatches_tied,
    scoreAll_correlate_of_perm Registry.decoyRegistry_accepted decoyedSample perm 0 true false⟩

end TechniqueScan
