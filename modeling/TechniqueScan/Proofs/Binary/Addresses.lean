import TechniqueScan.Proofs.Binary.Procedures
import TechniqueScan.Provider.Disassembly

/-!
How far ranges and procedures reach. A range of a file lies in the file and in its section, and a size
that was told when procedures were settled ends no later than the next procedure and the section.
-/

namespace TechniqueScan.Binary

/-! ## Ranges -/

namespace Section

theorem contains_iff {s : Section} {address : UInt64} :
    s.contains address = true ↔ s.start ≤ address ∧ address < s.stop := by
  simp [contains]

/-- A range of a file that holds bytes of a section, from an address on. -/
structure Covers (s : Section) (address : UInt64) (length : Option UInt64) (fileSize : Nat)
    (range : Nat × Nat) : Prop where
  inside : s.start ≤ address ∧ address < s.stop
  filled : range.1 < range.2
  inFile : range.2 ≤ fileSize
  asked : ∀ n, length = some n → range.2 - range.1 ≤ n.toNat
  inSection : range.2 - range.1 ≤ s.stop.toNat - address.toNat
  placed : range.1 = s.fileOffset + (address.toNat - s.start.toNat)

theorem fileRange?_covers {s : Section} {address : UInt64} {length : Option UInt64} {fileSize : Nat}
    {range : Nat × Nat} (found : s.fileRange? address length fileSize = some range) :
    s.Covers address length fileSize range := by
  rw [fileRange?, Option.ite_none_right_eq_some] at found
  obtain ⟨inside, found⟩ := found
  obtain ⟨filled, same⟩ := Option.ite_none_right_eq_some.mp found
  obtain rfl := Option.some.inj same
  obtain ⟨notBefore, before⟩ := contains_iff.mp inside
  have available := UInt64.toNat_sub_of_le s.stop address (UInt64.le_of_lt before)
  have distance := UInt64.toNat_sub_of_le address s.start notBefore
  have cut (start wanted : Nat) : Nat.min (start + wanted) fileSize - start ≤ wanted :=
    Nat.sub_le_of_le_add ((Nat.min_le_left _ _).trans (Nat.le_of_eq (Nat.add_comm _ _)))
  refine ⟨⟨notBefore, before⟩, filled, Nat.min_le_right _ _, ?_, ?_, ?_⟩
  · rintro n rfl
    exact (cut _ _).trans (Nat.min_le_left _ _)
  · rw [← available]
    exact (cut _ _).trans (Nat.min_le_right _ _)
  · rw [← distance]

end Section

namespace Image

/-! ## Sizes -/

/-- Where the first section that an address lies in ends. -/
def sectionStop? (i : Image) (address : UInt64) : Option UInt64 :=
  (i.sections.find? fun s => s.contains address).map (·.stop)

theorem lt_sectionStop {i : Image} {address stop : UInt64} (found : i.sectionStop? address = some stop) :
    address < stop := by
  obtain ⟨s, first, rfl⟩ := Option.map_eq_some_iff.mp found
  have inside := List.find?_some first
  exact (Section.contains_iff.mp inside).2

/-- The nearer of two bounds, as far as there are such. -/
def nearer? : Option UInt64 → Option UInt64 → Option UInt64
  | some next, some stop => some (if next < stop then next else stop)
  | some next, none => some next
  | none, stop => stop

theorem nearer?_told {next stop : Option UInt64} {bound : UInt64} (told : nearer? next stop = some bound) :
    next = some bound ∨ stop = some bound := by
  cases next with
  | none => exact .inr told
  | some a =>
    cases stop with
    | none => exact .inl told
    | some b =>
      obtain rfl := Option.some.inj told
      by_cases before : a < b
      · exact .inl (by rw [if_pos before])
      · exact .inr (by rw [if_neg before])

theorem nearer?_le {next stop : Option UInt64} {bound : UInt64} (told : nearer? next stop = some bound) :
    (∀ a, next = some a → bound ≤ a) ∧ ∀ a, stop = some a → bound ≤ a := by
  cases next with
  | none =>
    obtain rfl : stop = some bound := told
    exact ⟨fun _ none => (Option.some_ne_none _ none.symm).elim,
      fun _ same => UInt64.le_of_eq (Option.some.inj same)⟩
  | some a =>
    cases stop with
    | none =>
      obtain rfl := Option.some.inj told
      exact ⟨fun _ same => UInt64.le_of_eq (Option.some.inj same),
        fun _ none => (Option.some_ne_none _ none.symm).elim⟩
    | some b =>
      obtain rfl := Option.some.inj told
      simp only [Option.some.injEq, forall_eq']
      split
      case isTrue before => exact ⟨UInt64.le_refl a, UInt64.le_of_lt before⟩
      case isFalse notBefore => exact ⟨UInt64.not_lt.mp notBefore, UInt64.le_refl b⟩

theorem reach?_eq (i : Image) (address : UInt64) (next : Option UInt64) :
    i.reach? address next = (nearer? next (i.sectionStop? address)).map (· - address) := by
  unfold reach? sectionStop?
  cases next with
  | none => cases (i.sections.find? fun s => s.contains address).map (·.stop) <;> rfl
  | some a => cases (i.sections.find? fun s => s.contains address).map (·.stop) <;> rfl

/-- Whatever bounds a procedure lies behind it. -/
theorem lt_nearer {i : Image} {address bound : UInt64} {next : Option UInt64}
    (later : ∀ a, next = some a → address < a) (told : nearer? next (i.sectionStop? address) = some bound) :
    address < bound := by
  rcases nearer?_told told with next | stop
  · exact later bound next
  · exact lt_sectionStop stop

/-- A number of bytes from an address on that ends no later than the next procedure and the first section
that the address lies in. -/
structure Extends (i : Image) (address : UInt64) (next : Option UInt64) (n : UInt64) : Prop where
  positive : 0 < n
  before_next : ∀ a, next = some a → address.toNat + n.toNat ≤ a.toNat
  in_section : ∀ stop, i.sectionStop? address = some stop → address.toNat + n.toNat ≤ stop.toNat

theorem reach?_extends {i : Image} {address n : UInt64} {next : Option UInt64}
    (later : ∀ a, next = some a → address < a) (reached : i.reach? address next = some n) :
    i.Extends address next n := by
  rw [reach?_eq, Option.map_eq_some_iff] at reached
  obtain ⟨bound, told, rfl⟩ := reached
  have before := lt_nearer later told
  obtain ⟨le_next, le_stop⟩ := nearer?_le told
  have distance := UInt64.toNat_sub_of_le bound address (UInt64.le_of_lt before)
  have words := UInt64.lt_iff_toNat_lt.mp before
  have reaches : address.toNat + (bound - address).toNat = bound.toNat := by omega
  refine ⟨?_, ?_, ?_⟩
  · rw [UInt64.lt_iff_toNat_lt, distance]
    exact Nat.sub_pos_of_lt words
  · intro a next
    rw [reaches]
    exact UInt64.le_iff_toNat_le.mp (le_next a next)
  · intro stop found
    rw [reaches]
    exact UInt64.le_iff_toNat_le.mp (le_stop stop found)

/-! ## Settled procedures -/

theorem getElem?_sized (i : Image) (ps : List Procedure) (k : Nat) :
    (i.sized ps)[k]? = ps[k]?.map fun p => if p.size.isSome then p
      else { p with size := i.reach? p.address (ps[k + 1]?.map (·.address)) } := by
  induction ps generalizing k with
  | nil => rfl
  | cons p rest ih =>
    cases k with
    | zero => simp [sized, List.head?_eq_getElem?]
    | succ k => simp [sized, ih]

theorem next_address_eq (i : Image) (ps : List Procedure) (k : Nat) :
    (i.sized ps)[k]?.map (·.address) = ps[k]?.map (·.address) := by
  rw [← List.getElem?_map, sized_addresses, List.getElem?_map]

/-- The next of the procedures that are left lies behind each. -/
theorem lt_next {i : Image} {k : Nat} {p : Procedure} (placed : (dropAliases i.sorted)[k]? = some p) :
    ∀ a, (dropAliases i.sorted)[k + 1]?.map (·.address) = some a → p.address < a := by
  intro a next
  obtain ⟨q, placed', rfl⟩ := Option.map_eq_some_iff.mp next
  obtain ⟨within, rfl⟩ := List.getElem?_eq_some_iff.mp placed
  obtain ⟨within', rfl⟩ := List.getElem?_eq_some_iff.mp placed'
  have ascends := List.pairwise_map.mp (dropAliases_ascends i.sorted_addresses)
  exact List.pairwise_iff_getElem.mp ascends k (k + 1) within within' (Nat.lt_succ_self k)

/-- A size that was told on settling ends no later than the next procedure and the section. -/
theorem settle_extends {i : Image} {k : Nat} {p q : Procedure} {n : UInt64}
    (placed : i.settle.procedures[k]? = some q) (leads : i.Leads p) (same : p.SizedTo q)
    (unknown : p.size = none) (size : q.size = some n) :
    i.Extends q.address (i.settle.procedures[k + 1]?.map (·.address)) n := by
  rw [settle_procedures] at placed ⊢
  rw [next_address_eq]
  rw [getElem?_sized] at placed
  obtain ⟨l, left, rfl⟩ := Option.map_eq_some_iff.mp placed
  have leads' := (i.mem_dropAliases_sorted l).mp (List.mem_of_getElem? left)
  obtain rfl : p = l := by
    refine leads.eq_of_address leads' (same.address.symm.trans ?_)
    split <;> rfl
  simp only [unknown, Option.isSome_none, Bool.false_eq_true, if_false] at size ⊢
  exact reach?_extends (lt_next left) size

end Image

end TechniqueScan.Binary
