import Mathlib.Data.List.Nodup
import TechniqueScan.Document.Decode
import TechniqueScan.Proofs.Document.Json

/-!
Data that documents restore. What is read back from scalars, lists and records is what was written,
each field being found under its own name and read as what stood there.
-/

namespace TechniqueScan.Document

variable {α β κ : Type}

/-- Reading what JSON keeps of what is written for some data yields these data. -/
def Restores (encode : α → Value) (decode : Value → Decoded α) (a : α) : Prop :=
  decode (encode a).json = .ok a

/-! ## Scalars -/

theorem restores_text (s : String) : Restores .text Value.asText s := rfl

theorem restores_bool (b : Bool) : Restores .bool Value.asBool b := rfl

theorem restores_natural {bound n : Nat} (below : n < bound) :
    Restores .natural (Value.asNatural bound) n := by
  have integer : (Value.natural n).json.integer? = some (n : Int) := rfl
  have fits : (0 : Int) ≤ n ∧ (n : Int) < bound := by omega
  rw [Restores, Value.asNatural, integer]
  simp only [if_pos fits, Int.toNat_natCast]

/-- A number of things is a word of 64 bits. -/
theorem restores_count {n : Nat} (below : n < UInt64.size) : Restores .natural Value.asWord n :=
  restores_natural below

theorem restores_real {x : Float} (finite : isFinite x) : Restores .real Value.asReal x := by
  have kept : (Value.real x).json = .real x := by
    rw [Value.real, Value.json, Scalar.json, if_pos finite]
  rw [Restores, kept]
  rfl

theorem restores_name {name : α → String} {ofName? : String → Option α} {a : α}
    (named : ofName? (name a) = some a) :
    Restores (fun a => .text (name a)) (Value.asName ofName?) a := by
  have read : Value.asName ofName? (Value.text (name a)).json = orWrongShape (ofName? (name a)) := rfl
  rw [Restores, read, named]
  rfl

/-- What is restored is restored as something optional too, as long as it is not written as null. -/
theorem restores_optional {encode : α → Value} {decode : Value → Decoded α} {o : Option α}
    (each : ∀ a, o = some a → Restores encode decode a)
    (present : ∀ a, Value.asOptional decode (encode a).json = some <$> decode (encode a).json) :
    Restores (fun o => .orNull (o.map encode)) (Value.asOptional decode) o := by
  cases o with
  | none => rfl
  | some a =>
    have restored : decode (encode a).json = .ok a := each a rfl
    have read := present a
    rw [restored] at read
    exact read

/-! ## Lists -/

theorem readItems_eq {encode : α → Value} {decode : Value → Decoded α} {as : List α}
    (each : ∀ a ∈ as, Restores encode decode a) (i : Nat) :
    Value.readItems decode i (as.map fun a => (encode a).json) = .ok as := by
  induction as generalizing i with
  | nil => rfl
  | cons a rest ih =>
    obtain ⟨first, later⟩ := List.forall_mem_cons.mp each
    have first : decode (encode a).json = .ok a := first
    rw [List.map_cons, Value.readItems, first, ih later]
    rfl

theorem restores_list {encode : α → Value} {decode : Value → Decoded α} {as : List α}
    (each : ∀ a ∈ as, Restores encode decode a) :
    Restores (fun as => .items (as.map encode)) (Value.asList decode) as := by
  have read : Value.asList decode (Value.items (as.map encode)).json =
      Value.readItems decode 0 (Value.jsonItems (as.map encode)) := rfl
  rw [Restores, read, Value.jsonItems_eq_map, List.map_map]
  exact readItems_eq each 0

/-! ## Tables -/

theorem readEntries_eq {name : κ → String} {key : Value → Decoded κ} {encode : β → Value}
    {decode : Value → Decoded β} {entries : List (κ × β)}
    (named : ∀ e ∈ entries, Restores (fun k => .text (name k)) key e.1)
    (each : ∀ e ∈ entries, Restores encode decode e.2) (i : Nat) :
    Value.readEntries key decode i (entries.map fun e => (.text (name e.1), (encode e.2).json)) =
      .ok entries := by
  induction entries generalizing i with
  | nil => rfl
  | cons e rest ih =>
    obtain ⟨firstName, laterNames⟩ := List.forall_mem_cons.mp named
    obtain ⟨first, later⟩ := List.forall_mem_cons.mp each
    have firstName : key (.text (name e.1)) = .ok e.1 := firstName
    have first : decode (encode e.2).json = .ok e.2 := first
    rw [List.map_cons, Value.readEntries, firstName, first, ih laterNames later]
    rfl

theorem restores_table {name : κ → String} {key : Value → Decoded κ} {encode : β → Value}
    {decode : Value → Decoded β} {entries : List (κ × β)}
    (named : ∀ e ∈ entries, Restores (fun k => .text (name k)) key e.1)
    (each : ∀ e ∈ entries, Restores encode decode e.2) :
    Restores (fun es => .fields (es.map fun e => (name e.1, encode e.2))) (Value.asTable key decode)
      entries := by
  rw [Restores, Value.json_fields, List.map_map, Value.fields, List.map_map]
  exact readEntries_eq named each 0

/-! ## Records -/

namespace Record

/-- A record in which the known fields are those that were written. -/
structure Holds (r : Record) (entries : List (String × Value)) : Prop where
  positional : r.positional = false
  found : ∀ name, (r.find? name).map (·.2) = (entries.lookup name).map Value.json

namespace Holds

variable {r : Record} {entries : List (String × Value)} (holds : r.Holds entries) {name : String}
  {encode : α → Value} {decode : Value → Decoded α}

include holds

theorem find?_eq {v : Value} (listed : entries.lookup name = some v) :
    ∃ i, r.find? name = some (i, v.json) := by
  have found := holds.found name
  rw [listed] at found
  obtain ⟨⟨i, _⟩, stands, rfl⟩ := Option.map_eq_some_iff.mp found
  exact ⟨i, stands⟩

theorem required {a : α} (restores : Restores encode decode a)
    (listed : entries.lookup name = some (encode a)) : r.required name decode = .ok a := by
  obtain ⟨i, stands⟩ := holds.find?_eq listed
  have restored : decode (encode a).json = .ok a := restores
  rw [Record.required, stands]
  simp only [restored]
  rfl

theorem withDefault {a : α} (default : α) (restores : Restores encode decode a)
    (listed : entries.lookup name = some (encode a)) : r.withDefault name default decode = .ok a := by
  obtain ⟨i, stands⟩ := holds.find?_eq listed
  have restored : decode (encode a).json = .ok a := restores
  rw [Record.withDefault, stands]
  simp only [restored]
  rfl

theorem withDefault_absent (default : α) (absent : entries.lookup name = none) :
    r.withDefault name default decode = .ok default := by
  have found := holds.found name
  rw [absent] at found
  rw [Record.withDefault, Option.map_eq_none_iff.mp found]

theorem optional {o : Option α}
    (restores : Restores (fun o => .orNull (o.map encode)) (Value.asOptional decode) o)
    (listed : entries.lookup name = o.map encode) : r.optional name decode = .ok o := by
  cases o with
  | none => exact holds.withDefault_absent none listed
  | some a => exact holds.withDefault none restores listed

theorem nullable {o : Option α}
    (restores : Restores (fun o => .orNull (o.map encode)) (Value.asOptional decode) o)
    (listed : entries.lookup name = some (.orNull (o.map encode))) : r.nullable name decode = .ok o := by
  rw [Record.nullable, holds.positional]
  exact holds.withDefault none restores listed

end Holds

end Record

theorem knownEntries_fields {names : List String} {entries : List (String × Value)} {seen : List String}
    (known : ∀ e ∈ entries, e.1 ∈ names) (once : (entries.map (·.1)).Nodup)
    (fresh : ∀ e ∈ entries, e.1 ∉ seen) (i : Nat) :
    ∃ found, knownEntries names i (entries.map fun e => (.text e.1, e.2.json)) seen = .ok found ∧
      ∀ name, (found.find? fun e => e.1 = name).map (·.2.2) = (entries.lookup name).map Value.json := by
  induction entries generalizing i seen with
  | nil => exact ⟨[], rfl, fun _ => rfl⟩
  | cons e rest ih =>
    obtain ⟨name, v⟩ := e
    obtain ⟨first, later⟩ := List.forall_mem_cons.mp known
    obtain ⟨unseen, others⟩ := List.forall_mem_cons.mp fresh
    rw [List.map_cons, List.nodup_cons] at once
    have apart : ∀ e ∈ rest, e.1 ∉ name :: seen := by
      intro e member again
      rcases List.mem_cons.mp again with same | before
      · exact once.1 (List.mem_map.mpr ⟨e, member, same⟩)
      · exact others e member before
    obtain ⟨found, read, same⟩ := ih later once.2 apart (i + 1)
    refine ⟨(name, i, v.json) :: found, ?_, ?_⟩
    · have key : (Value.text name).keyText? = some name := rfl
      have isKnown : names.contains name = true := List.contains_iff_mem.mpr first
      have isNew : seen.contains name = false := by simpa using unseen
      rw [List.map_cons, knownEntries, key]
      simp only [isKnown, isNew, if_true, Bool.false_eq_true, if_false, read]
      rfl
    · intro name'
      by_cases here : name' = name
      · simp [here]
      · rw [List.lookup_cons, beq_false_of_ne here, List.find?_cons, decide_eq_false (Ne.symm here)]
        exact same name'

/-- A record is read from the fields that were written for it. -/
theorem restores_record {names : List String} {entries : List (String × Value)}
    {build : Record → Decoded α} {a : α} (listed : (entries.map (·.1)).Sublist names)
    (once : names.Nodup) (builds : ∀ r : Record, r.Holds entries → build r = .ok a) :
    ((Value.fields entries).json.asRecord names).andThen build = .ok a := by
  have known : ∀ e ∈ entries, e.1 ∈ names := fun e member => listed.subset (List.mem_map_of_mem member)
  obtain ⟨found, read, same⟩ := knownEntries_fields known (once.sublist listed)
    (fun _ _ => List.not_mem_nil) 0
  rw [Value.json_fields, Value.fields, List.map_map, Value.asRecord]
  simp only [Function.comp_def, read]
  refine builds _ ⟨rfl, fun name => ?_⟩
  rw [Record.find?, Option.map_map]
  exact same name

theorem keys_append {entries more : List (String × Value)} {names others all : List String}
    (listed : (entries.map (·.1)).Sublist names) (listed' : (more.map (·.1)).Sublist others)
    (same : names ++ others = all) : ((entries ++ more).map (·.1)).Sublist all := by
  rw [List.map_append, ← same]
  exact listed.append listed'

theorem whenSome_keys (key : String) (o : Option Value) :
    ((Value.whenSome key o).map (·.1)).Sublist [key] := by
  cases o with
  | none => exact List.nil_sublist _
  | some v => exact List.Sublist.refl _

@[simp] theorem lookup_whenSome (name key : String) (o : Option Value) :
    (Value.whenSome key o).lookup name = if name = key then o else none := by
  cases o with
  | none => exact (ite_self none).symm
  | some v =>
    by_cases same : name = key
    · simp [Value.whenSome, same]
    · simp [Value.whenSome, same]

end TechniqueScan.Document
