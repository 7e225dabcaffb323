import TechniqueScan.Binary.Elf
import TechniqueScan.Proofs.Except
import TechniqueScan.Proofs.Order

/-!
Settling the procedures of an image. Of those at one address the one with the least name is kept,
whatever sections they lie in. So every procedure leaves one behind in its section exactly where
addresses tell sections apart. In relocatable files they do not: there every section begins at zero.
-/

namespace TechniqueScan.Binary

open Std

namespace Procedure

/-- By address, then by name. -/
def order : Procedure → Procedure → Ordering :=
  compareLex (compareOn (·.address)) (compareOn (·.name))

instance : TransCmp order := inferInstanceAs <| TransCmp (compareLex _ _)

theorem order_eq (p q : Procedure) :
    p.order q = (compare p.address q.address).then (compare p.name q.name) := rfl

/-- Whether a procedure is another one, whose size may have been told if it was unknown. -/
structure SizedTo (p q : Procedure) : Prop where
  name : q.name = p.name
  address : q.address = p.address
  sectionIndex : q.sectionIndex = p.sectionIndex
  size : p.size.isSome → q.size = p.size

end Procedure

namespace Image

/-! ## Sorting -/

theorem procedureOrder_eq (p q : Procedure) : procedureOrder p q = (p.order q).isLE := by
  rw [Procedure.order_eq, procedureOrder]
  cases addresses : compare p.address q.address with
  | lt => simp [compare_eq_lt.mp addresses]
  | eq => simp [LawfulEqOrd.eq_of_compare addresses]
  | gt =>
    have after := compare_eq_gt.mp addresses
    have notBefore : ¬ p.address < q.address := UInt64.not_lt.mpr (UInt64.le_of_lt after)
    simp [notBefore, (UInt64.ne_of_lt after).symm]

/-- The procedures of an image by address, then by name. -/
def sorted (i : Image) : List Procedure := i.procedures.mergeSort fun p q => (p.order q).isLE

theorem mergeSort_procedureOrder (i : Image) : i.procedures.mergeSort procedureOrder = i.sorted := by
  have same : procedureOrder = fun p q => (p.order q).isLE := by
    funext p q
    exact procedureOrder_eq p q
  rw [sorted, same]

theorem settle_procedures (i : Image) : i.settle.procedures = i.sized (dropAliases i.sorted) := by
  rw [settle, mergeSort_procedureOrder]

theorem mem_sorted (i : Image) (p : Procedure) : p ∈ i.sorted ↔ p ∈ i.procedures := by
  rw [sorted, List.mem_mergeSort]

theorem sorted_pairwise (i : Image) : i.sorted.Pairwise fun p q => (p.order q).isLE :=
  mergeSort_pairwise_isLE Procedure.order i.procedures

theorem sorted_addresses (i : Image) : i.sorted.Pairwise fun p q => p.address ≤ q.address := by
  refine i.sorted_pairwise.imp ?_
  intro p q notAfter
  rw [Procedure.order_eq, Ordering.isLE_then_iff_and] at notAfter
  exact isLE_compare.mp notAfter.1

/-! ## Dropping aliases -/

theorem mem_go {a : UInt64} {ps : List Procedure} (notBefore : ∀ p ∈ ps, a ≤ p.address)
    (ascends : ps.Pairwise fun p q => p.address ≤ q.address) (p : Procedure) :
    p ∈ dropAliases.go a ps ↔ p.address ≠ a ∧ ps.find? (fun q => q.address = p.address) = some p := by
  induction ps generalizing a with
  | nil => simp [dropAliases.go]
  | cons first rest ih =>
    obtain ⟨least, ascends⟩ := List.pairwise_cons.mp ascends
    rw [dropAliases.go, List.find?_cons]
    by_cases repeated : first.address = a
    · rw [if_pos repeated, ih (fun q member => repeated ▸ least q member) ascends]
      refine and_congr_right fun different => ?_
      simp [repeated, different.symm]
    · rw [if_neg repeated, List.mem_cons, ih least ascends]
      by_cases here : first.address = p.address
      · rw [decide_eq_true here]
        simp [← here, repeated, eq_comm]
      · have notFirst : p ≠ first := fun same => here (congrArg Procedure.address same.symm)
        -- Whatever lies behind the first one lies behind the address before it.
        have behind (found : rest.find? (fun q => q.address = p.address) = some p) : p.address ≠ a := by
          intro same
          have atLeast := least p (List.mem_of_find?_eq_some found)
          rw [same] at atLeast
          exact repeated (UInt64.le_antisymm atLeast (notBefore first List.mem_cons_self))
        simpa [notFirst, here, Ne.symm here] using behind

/-- What is left of procedures in order are the first ones at their addresses. -/
theorem mem_dropAliases {ps : List Procedure} (ascends : ps.Pairwise fun p q => p.address ≤ q.address)
    (p : Procedure) :
    p ∈ dropAliases ps ↔ ps.find? (fun q => q.address = p.address) = some p := by
  cases ps with
  | nil => simp [dropAliases]
  | cons first rest =>
    obtain ⟨least, ascends⟩ := List.pairwise_cons.mp ascends
    rw [dropAliases, List.mem_cons, mem_go least ascends, List.find?_cons]
    by_cases here : first.address = p.address
    · simp [here, eq_comm]
    · have notFirst : p ≠ first := fun same => here (congrArg Procedure.address same.symm)
      simp [here, Ne.symm here, notFirst]

theorem go_ascends {a : UInt64} {ps : List Procedure} (notBefore : ∀ p ∈ ps, a ≤ p.address)
    (ascends : ps.Pairwise fun p q => p.address ≤ q.address) :
    (a :: (dropAliases.go a ps).map (·.address)).Pairwise (· < ·) := by
  induction ps generalizing a with
  | nil => simp [dropAliases.go]
  | cons first rest ih =>
    obtain ⟨least, ascends⟩ := List.pairwise_cons.mp ascends
    rw [dropAliases.go]
    by_cases repeated : first.address = a
    · rw [if_pos repeated]
      exact ih (fun q member => repeated ▸ least q member) ascends
    · have later := ih least ascends
      have before : a < first.address :=
        UInt64.lt_of_le_of_ne (notBefore first List.mem_cons_self) (Ne.symm repeated)
      rw [if_neg repeated, List.map_cons]
      refine List.pairwise_cons.mpr ⟨?_, later⟩
      intro b member
      rcases List.mem_cons.mp member with rfl | member
      · exact before
      · exact UInt64.lt_trans before ((List.pairwise_cons.mp later).1 b member)

theorem dropAliases_ascends {ps : List Procedure}
    (ascends : ps.Pairwise fun p q => p.address ≤ q.address) :
    ((dropAliases ps).map (·.address)).Pairwise (· < ·) := by
  cases ps with
  | nil => exact .nil
  | cons first rest =>
    obtain ⟨least, ascends⟩ := List.pairwise_cons.mp ascends
    exact go_ascends least ascends

/-! ## The procedures that are kept -/

/-- Whether a procedure has the least name at its address and comes first among those of that name. -/
def Leads (i : Image) (p : Procedure) : Prop :=
  i.procedures.find? (fun q => q.address = p.address ∧ q.name = p.name) = some p ∧
    ∀ q ∈ i.procedures, q.address = p.address → (compare p.name q.name).isLE

theorem Leads.mem {i : Image} {p : Procedure} (leads : i.Leads p) : p ∈ i.procedures :=
  List.mem_of_find?_eq_some leads.1

/-- Procedures that share address and name stay in their order. -/
theorem sorted_find?_named (i : Image) (p : Procedure) :
    i.sorted.find? (fun q => q.address = p.address ∧ q.name = p.name) =
      i.procedures.find? fun q => q.address = p.address ∧ q.name = p.name := by
  rw [← List.head?_filter, ← List.head?_filter, sorted, mergeSort_filter_of_pairwise]
  refine List.pairwise_of_forall_mem_list ?_
  intro q inQ r inR
  have ⟨_, sameQ⟩ := List.mem_filter.mp inQ
  have ⟨_, sameR⟩ := List.mem_filter.mp inR
  simp only [decide_eq_true_eq] at sameQ sameR
  rw [Procedure.order_eq, sameQ.1, sameQ.2, sameR.1, sameR.2, compare_self, compare_self]
  rfl

theorem sorted_split {i : Image} {p : Procedure} {before after : List Procedure}
    (split : i.sorted = before ++ p :: after) :
    (∀ q ∈ before, (q.order p).isLE) ∧ ∀ q ∈ after, (p.order q).isLE := by
  have pairwise := i.sorted_pairwise
  rw [split, List.pairwise_append, List.pairwise_cons] at pairwise
  exact ⟨fun q member => pairwise.2.2 q member p List.mem_cons_self, pairwise.2.1.1⟩

theorem Leads.of_sorted_find? {i : Image} {p : Procedure}
    (found : i.sorted.find? (fun q => q.address = p.address) = some p) : i.Leads p := by
  obtain ⟨_, before, after, split, others⟩ := List.find?_eq_some_iff_append.mp found
  constructor
  · rw [← i.sorted_find?_named p, List.find?_eq_some_iff_append]
    refine ⟨by simp, before, after, split, ?_⟩
    intro q member
    have elsewhere : q.address ≠ p.address := by simpa using others q member
    simp [elsewhere]
  · intro q member here
    rw [← i.mem_sorted, split, List.mem_append, List.mem_cons] at member
    rcases member with member | rfl | member
    · have elsewhere : q.address ≠ p.address := by simpa using others q member
      exact absurd here elsewhere
    · rw [compare_self]
      rfl
    · have notBefore := (sorted_split split).2 q member
      rw [Procedure.order_eq, here, compare_self] at notBefore
      exact notBefore

theorem Leads.sorted_find? {i : Image} {p : Procedure} (leads : i.Leads p) :
    i.sorted.find? (fun q => q.address = p.address) = some p := by
  obtain ⟨found, least⟩ := leads
  rw [← i.sorted_find?_named p] at found
  obtain ⟨_, before, after, split, others⟩ := List.find?_eq_some_iff_append.mp found
  refine List.find?_eq_some_iff_append.mpr ⟨by simp, before, after, split, ?_⟩
  intro q member
  by_cases here : q.address = p.address
  · -- One that came before at the same address would have the same name, and be found instead.
    have notAfter := (sorted_split split).1 q member
    rw [Procedure.order_eq, here, compare_self] at notAfter
    have listed : q ∈ i.procedures := by
      rw [← i.mem_sorted, split]
      exact List.mem_append_left _ member
    have sameName : q.name = p.name :=
      LawfulEqOrd.eq_of_compare (OrientedCmp.isLE_antisymm notAfter (least q listed here))
    have different := others q member
    simp [here, sameName] at different
  · simp [here]

/-- The first one at an address is the one that leads there. -/
theorem sorted_find?_iff (i : Image) (p : Procedure) :
    i.sorted.find? (fun q => q.address = p.address) = some p ↔ i.Leads p :=
  ⟨Leads.of_sorted_find?, Leads.sorted_find?⟩

theorem mem_dropAliases_sorted (i : Image) (p : Procedure) : p ∈ dropAliases i.sorted ↔ i.Leads p := by
  rw [mem_dropAliases i.sorted_addresses, sorted_find?_iff]

/-- One procedure leads at the address of each. -/
theorem exists_leads {i : Image} {p : Procedure} (listed : p ∈ i.procedures) :
    ∃ q, i.Leads q ∧ q.address = p.address := by
  have found : (i.sorted.find? fun q => q.address = p.address).isSome := by
    rw [List.find?_isSome]
    exact ⟨p, (i.mem_sorted p).mpr listed, by simp⟩
  obtain ⟨q, found⟩ := Option.isSome_iff_exists.mp found
  have here : q.address = p.address := by simpa using List.find?_some found
  refine ⟨q, (i.sorted_find?_iff q).mp ?_, here⟩
  rw [here]
  exact found

theorem Leads.eq_of_address {i : Image} {p q : Procedure} (first : i.Leads p) (second : i.Leads q)
    (same : p.address = q.address) : p = q := by
  have foundP := (i.sorted_find?_iff p).mpr first
  have foundQ := (i.sorted_find?_iff q).mpr second
  rw [same, foundQ] at foundP
  exact (Option.some.inj foundP).symm

/-! ## Settling -/

theorem sized_sizes (i : Image) (ps : List Procedure) :
    List.Forall₂ Procedure.SizedTo ps (i.sized ps) := by
  induction ps with
  | nil => exact .nil
  | cons p rest ih =>
    rw [sized]
    refine .cons ?_ ih
    by_cases known : p.size.isSome
    · rw [if_pos known]
      exact ⟨rfl, rfl, rfl, fun _ => rfl⟩
    · rw [if_neg known]
      exact ⟨rfl, rfl, rfl, fun known' => absurd known' known⟩

theorem sized_addresses (i : Image) (ps : List Procedure) :
    (i.sized ps).map (·.address) = ps.map (·.address) := by
  have each := i.sized_sizes ps
  generalize i.sized ps = qs at each
  induction each with
  | nil => rfl
  | cons first _ ih => rw [List.map_cons, List.map_cons, first.address, ih]

theorem settle_kept {i : Image} {q : Procedure} (member : q ∈ i.settle.procedures) :
    ∃ p, i.Leads p ∧ p.SizedTo q := by
  rw [settle_procedures] at member
  obtain ⟨p, left, sized⟩ := exists_of_forall₂_right (i.sized_sizes _) member
  exact ⟨p, (i.mem_dropAliases_sorted p).mp left, sized⟩

theorem settle_keeps {i : Image} {p : Procedure} (leads : i.Leads p) :
    ∃ q ∈ i.settle.procedures, p.SizedTo q := by
  rw [settle_procedures]
  exact exists_of_forall₂_right (i.sized_sizes _).flip ((i.mem_dropAliases_sorted p).mpr leads)

theorem settle_ascends (i : Image) :
    (i.settle.procedures.map (·.address)).Pairwise (· < ·) := by
  rw [settle_procedures, sized_addresses]
  exact dropAliases_ascends i.sorted_addresses

/-- Whether some procedure with the address and the section of another is left. -/
def Survives (i : Image) (p : Procedure) : Prop :=
  ∃ q ∈ i.settle.procedures, q.address = p.address ∧ q.sectionIndex = p.sectionIndex

/-- A procedure survives if the one that leads at its address lies in its section. -/
theorem survives_iff {i : Image} {p l : Procedure} (leads : i.Leads l) (here : l.address = p.address) :
    i.Survives p ↔ l.sectionIndex = p.sectionIndex := by
  constructor
  · rintro ⟨q, member, sameAddress, sameSection⟩
    obtain ⟨l', leads', sized⟩ := settle_kept member
    rw [leads.eq_of_address leads' (here.trans (sameAddress.symm.trans sized.address)),
      ← sized.sectionIndex, sameSection]
  · intro inSection
    obtain ⟨q, member, sized⟩ := settle_keeps leads
    exact ⟨q, member, sized.address.trans here, sized.sectionIndex.trans inSection⟩

/-- What settling leaves of the procedures of an image. -/
structure SettlesProcedures (i : Image) : Prop where
  /-- Each address comes once. -/
  ascends : (i.settle.procedures.map (·.address)).Pairwise (· < ·)
  /-- What is left leads at its address; nothing has changed but an unknown size. -/
  kept : ∀ q ∈ i.settle.procedures, ∃ p, i.Leads p ∧ p.SizedTo q
  /-- Every procedure that leads at its address is left. -/
  keeps : ∀ p, i.Leads p → ∃ q ∈ i.settle.procedures, p.SizedTo q
  /-- At the address of each procedure one is left. -/
  covers : ∀ p ∈ i.procedures, ∃ q ∈ i.settle.procedures, q.address = p.address
  /-- It lies in the same section unless one of another section leads there. -/
  survives_iff : ∀ p ∈ i.procedures, i.Survives p ↔
    ∀ l, i.Leads l → l.address = p.address → l.sectionIndex = p.sectionIndex
  /-- No procedure is lost exactly if all those at one address lie in one section. -/
  lossless_iff : (∀ p ∈ i.procedures, i.Survives p) ↔ ∀ p ∈ i.procedures, ∀ q ∈ i.procedures,
    p.address = q.address → p.sectionIndex = q.sectionIndex

theorem lossless_iff (i : Image) : (∀ p ∈ i.procedures, i.Survives p) ↔
    ∀ p ∈ i.procedures, ∀ q ∈ i.procedures, p.address = q.address → p.sectionIndex = q.sectionIndex := by
  constructor
  · intro every p member q member' same
    obtain ⟨l, leads, here⟩ := exists_leads member
    have first := (survives_iff leads here).mp (every p member)
    have second := (survives_iff leads (here.trans same)).mp (every q member')
    exact first.symm.trans second
  · intro told p member
    obtain ⟨l, leads, here⟩ := exists_leads member
    exact (survives_iff leads here).mpr (told l leads.mem p member here)

/-- Settling keeps the leading procedure of each address, and nothing else. -/
theorem settle_settlesProcedures (i : Image) : i.SettlesProcedures where
  ascends := i.settle_ascends
  kept _ member := settle_kept member
  keeps _ leads := settle_keeps leads
  covers := by
    intro p member
    obtain ⟨l, leads, here⟩ := exists_leads member
    obtain ⟨q, left, sized⟩ := settle_keeps leads
    exact ⟨q, left, sized.address.trans here⟩
  survives_iff := by
    intro p member
    obtain ⟨l, leads, here⟩ := exists_leads member
    rw [survives_iff leads here]
    constructor
    · intro own l' leads' here'
      rw [leads'.eq_of_address leads (here'.trans here.symm), own]
    · intro every
      exact every l leads here
  lossless_iff := i.lossless_iff

end Image

/-- A relocatable file in which the sections one and two hold a procedure each, both of them at
their beginning. -/
def Elf.relocatable : Elf.File where
  header := ⟨62, 0, 0, 64, 0, 3, 0⟩
  sections := [⟨0, 0, 0, 0, 0, 0, 0, 0⟩, ⟨0, 1, 0, 256, 1, 0, 0, 0⟩, ⟨0, 1, 0, 257, 3, 0, 0, 0⟩]
  sectionNames := {}
  symbols := [⟨1, 18, 1, 0, 1⟩, ⟨7, 18, 2, 0, 3⟩]
  names := ⟨⟨#[0, 97, 108, 112, 104, 97, 0, 98, 101, 116, 97, 0]⟩⟩
  dynamicSymbols := []
  dynamicNames := {}
  entries := []

theorem Elf.relocatable_procedures : (Elf.image relocatable).procedures =
    [⟨"alpha", 0, some 1, some 1⟩, ⟨"beta", 0, some 3, some 2⟩] := by
  decide +kernel

/-- The second section is left without its procedure. -/
theorem Elf.relocatable_loses : ∃ p ∈ (Elf.image relocatable).procedures,
    p.name = "beta" ∧ ¬ (Elf.image relocatable).Survives p := by
  have leads : (Elf.image relocatable).Leads ⟨"alpha", 0, some 1, some 1⟩ := by
    rw [Image.Leads, relocatable_procedures]
    decide
  refine ⟨⟨"beta", 0, some 3, some 2⟩, by simp [relocatable_procedures], rfl, ?_⟩
  have elsewhere := Image.survives_iff (p := ⟨"beta", 0, some 3, some 2⟩) leads rfl
  rw [elsewhere]
  decide

end TechniqueScan.Binary
