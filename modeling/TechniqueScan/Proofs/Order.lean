import TechniqueScan.Correlation
import TechniqueScan.Proofs.Ascending

/-!
The orders of facts, hits and sites, and of what they are made of. Each is total and calls only
equal values equal, so that the laws of ascending lists hold for them.
-/

namespace TechniqueScan

open Std

namespace Scope

theorem eq_of_compare_eq {a b : Scope} (equal : compare a b = .eq) : a = b := by
  cases a with
  | whole =>
    cases b with
    | whole => rfl
    | procedure _ => cases equal
  | procedure n =>
    cases b with
    | whole => cases equal
    | procedure n' => rw [LawfulEqOrd.eq_of_compare (show Ord.compare n n' = .eq from equal)]

theorem compare_swap (a b : Scope) : compare a b = (compare b a).swap := by
  cases a with
  | whole => cases b <;> rfl
  | procedure n =>
    cases b with
    | whole => rfl
    | procedure n' => exact OrientedOrd.eq_swap (α := String)

theorem compare_trans {a b c : Scope} (first : (compare a b).isLE) (second : (compare b c).isLE) :
    (compare a c).isLE := by
  cases a with
  | whole => cases c <;> rfl
  | procedure n =>
    cases b with
    | whole => cases first
    | procedure n' =>
      cases c with
      | whole => cases second
      | procedure n'' => exact TransOrd.isLE_trans (α := String) first second

instance : TransOrd Scope where
  eq_swap := compare_swap _ _
  isLE_trans := compare_trans

instance : LawfulEqOrd Scope where
  compare_self {a} := by cases a with
    | whole => rfl
    | procedure n => exact ReflOrd.compare_self (α := String)
  eq_of_compare := eq_of_compare_eq

end Scope

instance : TransOrd Location := inferInstanceAs <| TransCmp (compareLex _ _)

instance : LawfulEqOrd Location where
  eq_of_compare {a b} equal := by
    obtain ⟨scope, address⟩ := compareLex_eq_eq.mp equal
    cases a
    cases b
    congr
    · exact LawfulEqOrd.eq_of_compare scope
    · exact LawfulEqOrd.eq_of_compare address

/-- In one scope places are ordered by their addresses. -/
theorem Location.address_le {a b : Location} (notAfter : (compare a b).isLE) (same : a.scope = b.scope) :
    a.address ≤ b.address := by
  have parts : compare a b = (compare a.scope b.scope).then (compare a.address b.address) := rfl
  rw [parts, same, ReflOrd.compare_self] at notAfter
  exact isLE_compare.mp notAfter

/-- Keeping the lower of two addresses one after the other keeps the lowest. -/
theorem foldl_least (a : UInt64) (rest : List UInt64) :
    rest.foldl (fun least b => if b < least then b else least) a ∈ a :: rest ∧
      ∀ b ∈ a :: rest, rest.foldl (fun least b => if b < least then b else least) a ≤ b := by
  induction rest generalizing a with
  | nil => simp
  | cons c rest ih =>
    rw [List.foldl_cons]
    obtain ⟨member, least⟩ := ih (if c < a then c else a)
    have bound := least _ List.mem_cons_self
    by_cases smaller : c < a
    · rw [if_pos smaller] at member least bound ⊢
      refine ⟨List.mem_cons_of_mem _ member, ?_⟩
      intro b listed
      rcases List.mem_cons.mp listed with rfl | later
      · exact UInt64.le_trans bound (UInt64.le_of_lt smaller)
      · exact least b later
    · rw [if_neg smaller] at member least bound ⊢
      refine ⟨?_, ?_⟩
      · rcases List.mem_cons.mp member with first | later
        · rw [first]
          exact List.mem_cons_self
        · exact List.mem_cons_of_mem _ (List.mem_cons_of_mem _ later)
      · intro b listed
        rcases List.mem_cons.mp listed with rfl | later
        · exact bound
        · rcases List.mem_cons.mp later with rfl | later
          · exact UInt64.le_trans bound (UInt64.not_lt.mp smaller)
          · exact least b (List.mem_cons_of_mem _ later)

/-! ## Facts -/

instance : TransOrd SymbolKind := inferInstanceAs <| TransCmp (compareOn SymbolKind.ctorIdx)

instance : LawfulEqOrd SymbolKind where
  compare_self := ReflOrd.compare_self (α := Nat)
  eq_of_compare {a b} equal := by
    have same : a.ctorIdx = b.ctorIdx := LawfulEqOrd.eq_of_compare equal
    revert same
    cases a <;> cases b <;> decide

instance : TransOrd ReferenceKind := inferInstanceAs <| TransCmp (compareOn ReferenceKind.ctorIdx)

instance : LawfulEqOrd ReferenceKind where
  compare_self := ReflOrd.compare_self (α := Nat)
  eq_of_compare {a b} equal := by
    have same : a.ctorIdx = b.ctorIdx := LawfulEqOrd.eq_of_compare equal
    revert same
    cases a <;> cases b <;> decide

instance : TransOrd Instruction := inferInstanceAs <| TransCmp (compareLex _ _)

instance : LawfulEqOrd Instruction where
  eq_of_compare {a b} equal := by
    obtain ⟨mnemonic, operands⟩ := compareLex_eq_eq.mp equal
    cases a
    cases b
    congr
    · exact LawfulEqOrd.eq_of_compare mnemonic
    · exact LawfulEqOrd.eq_of_compare operands

instance : TransOrd Reference := inferInstanceAs <| TransCmp (compareLex _ (compareLex _ _))

instance : LawfulEqOrd Reference where
  eq_of_compare {a b} equal := by
    obtain ⟨target, rest⟩ := compareLex_eq_eq.mp equal
    obtain ⟨name, kind⟩ := compareLex_eq_eq.mp rest
    cases a
    cases b
    congr
    · exact LawfulEqOrd.eq_of_compare target
    · exact LawfulEqOrd.eq_of_compare name
    · exact LawfulEqOrd.eq_of_compare kind

namespace Observation

/-- The order of two parts, the first deciding. -/
def pairOrder (α β : Type) [Ord α] [Ord β] : α × β → α × β → Ordering :=
  compareLex (compareOn Prod.fst) (compareOn Prod.snd)

instance {α β : Type} [Ord α] [Ord β] [TransOrd α] [TransOrd β] : TransCmp (pairOrder α β) :=
  inferInstanceAs <| TransCmp (compareLex _ _)

theorem pairOrder_swap {α β : Type} [Ord α] [Ord β] [TransOrd α] [TransOrd β] (p q : α × β) :
    pairOrder α β p q = (pairOrder α β q p).swap := OrientedCmp.eq_swap

theorem pairOrder_trans {α β : Type} [Ord α] [Ord β] [TransOrd α] [TransOrd β] (p q r : α × β)
    (first : (pairOrder α β p q).isLE) (second : (pairOrder α β q r).isLE) :
    (pairOrder α β p r).isLE := TransCmp.isLE_trans first second

theorem eq_of_compare_eq {a b : Observation} (equal : compare a b = .eq) : a = b := by
  cases a with
  | symbol n k =>
    cases b with
    | symbol n' k' =>
      obtain ⟨name, kind⟩ := Ordering.then_eq_eq.mp equal
      rw [LawfulEqOrd.eq_of_compare name, LawfulEqOrd.eq_of_compare kind]
    | _ => cases equal
  | string v =>
    cases b with
    | string v' => rw [LawfulEqOrd.eq_of_compare (show Ord.compare v v' = .eq from equal)]
    | _ => cases equal
  | number v i =>
    cases b with
    | number v' i' =>
      obtain ⟨value, index⟩ := Ordering.then_eq_eq.mp equal
      rw [LawfulEqOrd.eq_of_compare value, LawfulEqOrd.eq_of_compare index]
    | _ => cases equal
  | instruction i =>
    cases b with
    | instruction i' => rw [LawfulEqOrd.eq_of_compare (show Ord.compare i i' = .eq from equal)]
    | _ => cases equal
  | reference r =>
    cases b with
    | reference r' => rw [LawfulEqOrd.eq_of_compare (show Ord.compare r r' = .eq from equal)]
    | _ => cases equal

theorem compare_swap (a b : Observation) : compare a b = (compare b a).swap := by
  cases a with
  | symbol n k =>
    cases b with
    | symbol n' k' => exact pairOrder_swap (n, k) (n', k')
    | _ => rfl
  | string v =>
    cases b with
    | string v' => exact OrientedOrd.eq_swap (α := String)
    | _ => rfl
  | number v i =>
    cases b with
    | number v' i' => exact pairOrder_swap (v, i) (v', i')
    | _ => rfl
  | instruction i =>
    cases b with
    | instruction i' => exact OrientedOrd.eq_swap (α := Instruction)
    | _ => rfl
  | reference r =>
    cases b with
    | reference r' => exact OrientedOrd.eq_swap (α := Reference)
    | _ => rfl

/-- Observations of different kinds are ordered by their kinds. -/
theorem compare_of_ctorIdx_ne {a b : Observation} (different : a.ctorIdx ≠ b.ctorIdx) :
    compare a b = Ord.compare a.ctorIdx b.ctorIdx := by
  cases a <;> cases b <;> first | rfl | exact absurd rfl different

theorem ctorIdx_le_of_isLE {a b : Observation} (atMost : (compare a b).isLE) :
    a.ctorIdx ≤ b.ctorIdx := by
  by_cases same : a.ctorIdx = b.ctorIdx
  · exact Nat.le_of_eq same
  · rw [compare_of_ctorIdx_ne same] at atMost
    exact isLE_compare.mp atMost

theorem compare_trans {a b c : Observation} (first : (compare a b).isLE)
    (second : (compare b c).isLE) : (compare a c).isLE := by
  have low := ctorIdx_le_of_isLE first
  have high := ctorIdx_le_of_isLE second
  by_cases same : a.ctorIdx = c.ctorIdx
  · have middle : a.ctorIdx = b.ctorIdx := by omega
    cases a with
    | symbol n k =>
      cases b with
      | symbol n' k' =>
        cases c with
        | symbol n'' k'' =>
          exact pairOrder_trans (n, k) (n', k') (n'', k'') first second
        | _ => cases same
      | _ => cases middle
    | string v =>
      cases b with
      | string v' =>
        cases c with
        | string v'' => exact TransOrd.isLE_trans (α := String) first second
        | _ => cases same
      | _ => cases middle
    | number v i =>
      cases b with
      | number v' i' =>
        cases c with
        | number v'' i'' =>
          exact pairOrder_trans (v, i) (v', i') (v'', i'') first second
        | _ => cases same
      | _ => cases middle
    | instruction i =>
      cases b with
      | instruction i' =>
        cases c with
        | instruction i'' =>
          exact TransOrd.isLE_trans (α := Instruction) first second
        | _ => cases same
      | _ => cases middle
    | reference r =>
      cases b with
      | reference r' =>
        cases c with
        | reference r'' => exact TransOrd.isLE_trans (α := Reference) first second
        | _ => cases same
      | _ => cases middle
  · rw [compare_of_ctorIdx_ne same]
    exact isLE_compare.mpr (by omega)

instance : TransOrd Observation where
  eq_swap := compare_swap _ _
  isLE_trans := compare_trans

instance : LawfulEqOrd Observation where
  compare_self {a} := by
    have swapped := compare_swap a a
    change compare a a = .eq
    cases order : compare a a with
    | eq => rfl
    | lt => rw [order] at swapped; cases swapped
    | gt => rw [order] at swapped; cases swapped
  eq_of_compare := eq_of_compare_eq

end Observation

instance : TransOrd CallContext := inferInstanceAs <| TransCmp (compareLex _ _)

instance : LawfulEqOrd CallContext where
  eq_of_compare {a b} equal := by
    obtain ⟨convention, count⟩ := compareLex_eq_eq.mp equal
    cases a
    cases b
    congr
    · exact LawfulEqOrd.eq_of_compare convention
    · exact LawfulEqOrd.eq_of_compare count

instance : TransOrd Fact := inferInstanceAs <| TransCmp (compareLex _ (compareLex _ _))

instance : LawfulEqOrd Fact where
  eq_of_compare {a b} equal := by
    obtain ⟨location, rest⟩ := compareLex_eq_eq.mp equal
    obtain ⟨seen, context⟩ := compareLex_eq_eq.mp rest
    cases a
    cases b
    congr
    · exact LawfulEqOrd.eq_of_compare location
    · exact LawfulEqOrd.eq_of_compare seen
    · exact LawfulEqOrd.eq_of_compare context

theorem Fact.location_isLE {f g : Fact} (before : compare f g = .lt) :
    (compare f.location g.location).isLE :=
  Ordering.isLE_left_of_isLE_then (by
    show (compare f g).isLE
    rw [before]
    rfl)

/-! ## Hits and sites -/

instance : TransOrd ClauseRef := inferInstanceAs <| TransCmp (compareLex _ _)

instance : LawfulEqOrd ClauseRef where
  eq_of_compare {a b} equal := by
    obtain ⟨signature, clause⟩ := compareLex_eq_eq.mp equal
    cases a
    cases b
    congr
    · exact LawfulEqOrd.eq_of_compare signature
    · exact LawfulEqOrd.eq_of_compare clause

instance : TransOrd Hit := inferInstanceAs <| TransCmp (compareLex _ (compareLex _ _))

instance : LawfulEqOrd Hit where
  eq_of_compare {a b} equal := by
    obtain ⟨location, rest⟩ := compareLex_eq_eq.mp equal
    obtain ⟨signature, facts⟩ := compareLex_eq_eq.mp rest
    cases a
    cases b
    congr
    · exact LawfulEqOrd.eq_of_compare location
    · exact LawfulEqOrd.eq_of_compare signature
    · exact LawfulEqOrd.eq_of_compare facts

theorem Category.rank_injective {a b : Category} (same : a.rank = b.rank) : a = b := by
  revert same
  cases a <;> cases b <;> decide

theorem Category.all_nodup : Category.all.Nodup := by decide

instance : TransOrd Category := inferInstanceAs <| TransCmp (compareOn Category.rank)

instance : LawfulEqOrd Category where
  compare_self := ReflOrd.compare_self (α := Nat)
  eq_of_compare equal := Category.rank_injective (LawfulEqOrd.eq_of_compare equal)

theorem Category.all_ascends : StrictlyAscending Category.all := by
  unfold StrictlyAscending
  decide

instance : TransOrd Site := inferInstanceAs <| TransCmp (compareLex _ _)

instance : LawfulEqOrd Site where
  eq_of_compare {a b} equal := by
    obtain ⟨scope, category⟩ := compareLex_eq_eq.mp equal
    cases a
    cases b
    congr
    · exact LawfulEqOrd.eq_of_compare scope
    · exact LawfulEqOrd.eq_of_compare category

end TechniqueScan
