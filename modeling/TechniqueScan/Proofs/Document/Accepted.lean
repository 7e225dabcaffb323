import TechniqueScan.Document.Decode

/-!
What acceptance says about the parts of a document. A reader that accepts a document accepts every part
that it reads. A record that tolerates no other keys finds each of its fields under one key.
-/

namespace TechniqueScan.Document

variable {α β : Type}

/-! ## Readings that are accepted -/

namespace Decoded

/-- Whether a reading was not refused. -/
def Accepted (d : Decoded α) : Prop := ∃ a, d = .ok a

theorem map_ok_iff {f : α → β} {d : Decoded α} {b : β} : f <$> d = .ok b ↔ ∃ a, d = .ok a ∧ f a = b := by
  have unfolded : f <$> d = d.map f := rfl
  cases d with
  | ok a => simp [unfolded, map]
  | refused e => simp [unfolded, map]

@[simp] theorem accepted_map (f : α → β) (d : Decoded α) : (f <$> d).Accepted ↔ d.Accepted := by
  have unfolded : f <$> d = d.map f := rfl
  cases d with
  | ok a => simp [Accepted, unfolded, map]
  | refused e => simp [Accepted, unfolded, map]

@[simp] theorem accepted_seq (f : Decoded (α → β)) (d : Decoded α) :
    (f <*> d).Accepted ↔ f.Accepted ∧ d.Accepted := by
  have unfolded : f <*> d = f.ap d := rfl
  cases f with
  | ok g => cases d <;> simp [Accepted, unfolded, ap]
  | refused e => cases d <;> simp [Accepted, unfolded, ap]

theorem accepted_ap (f : Decoded (α → β)) (d : Decoded α) :
    (f.ap d).Accepted ↔ f.Accepted ∧ d.Accepted :=
  accepted_seq f d

theorem accepted_andThen (d : Decoded α) (f : α → Decoded β) :
    (d.andThen f).Accepted ↔ ∃ a, d = .ok a ∧ (f a).Accepted := by
  cases d with
  | ok a => simp [andThen]
  | refused e => simp [Accepted, andThen]

@[simp] theorem accepted_within (i : Nat) (d : Decoded α) : (d.within i).Accepted ↔ d.Accepted := by
  cases d with
  | ok a => rfl
  | refused e => simp [Accepted, within]

@[simp] theorem toOption_map (f : α → β) (d : Decoded α) : (f <$> d).toOption = d.toOption.map f := by
  cases d with
  | ok a => rfl
  | refused e => rfl

@[simp] theorem toOption_seq (f : Decoded (α → β)) (d : Decoded α) :
    (f <*> d).toOption = f.toOption.bind fun g => d.toOption.map g := by
  cases f with
  | ok g => cases d <;> rfl
  | refused e => cases d <;> rfl

theorem toOption_andThen (d : Decoded α) (f : α → Decoded β) :
    (d.andThen f).toOption = d.toOption.bind fun a => (f a).toOption := by
  cases d with
  | ok a => rfl
  | refused e => rfl

@[simp] theorem toOption_within (i : Nat) (d : Decoded α) : (d.within i).toOption = d.toOption := by
  cases d with
  | ok a => rfl
  | refused e => rfl

end Decoded

namespace Value

/-! ## Parts of a value -/

/-- What a table holds under a key. -/
def fieldsNamed (name : String) : Value → List Value
  | .table entries => (entries.filter fun (k, _) => k.keyText? = some name).map (·.2)
  | _ => []

/-- The items of a list. -/
def listed : Value → List Value
  | .list _ vs => vs
  | _ => []

/-- The items of the lists that a table holds under a key. -/
def itemsNamed (name : String) (v : Value) : List Value := (v.fieldsNamed name).flatMap listed

/-- Whether a table has a key that is none of some names. -/
def isMisspelt (names : List String) : Value → Bool
  | .table entries => entries.any fun (k, _) => !k.keyText?.any names.contains
  | _ => false

theorem accepted_readItems (read : Value → Decoded α) (vs : List Value) (i : Nat) :
    (readItems read i vs).Accepted ↔ ∀ v ∈ vs, (read v).Accepted := by
  induction vs generalizing i with
  | nil => simp [readItems, Decoded.Accepted]
  | cons v rest ih =>
    simp [readItems, Decoded.accepted_ap, ih]

/-- A list that is read has items that can be read. -/
theorem accepted_asList {read : Value → Decoded α} {v : Value} (accepted : (v.asList read).Accepted) :
    ∀ w ∈ v.listed, (read w).Accepted := by
  cases v with
  | list positional vs => exact (accepted_readItems read vs 0).mp accepted
  | _ => exact fun w member => absurd member List.not_mem_nil

/-- So has a list that may be absent. -/
theorem accepted_asOptional_asList {read : Value → Decoded α} {v : Value}
    (accepted : (asOptional (asList read) v).Accepted) : ∀ w ∈ v.listed, (read w).Accepted := by
  cases v with
  | list positional vs =>
    have present : (some <$> asList read (.list positional vs)).Accepted := accepted
    rw [Decoded.accepted_map] at present
    exact accepted_asList present
  | _ => exact fun w member => absurd member List.not_mem_nil

end Value

/-! ## Records -/

theorem knownEntries_cons {k : Value} {name : String} (keyed : k.keyText? = some name)
    (names seen : List String) (i : Nat) (v : Value) (rest : List (Value × Value)) :
    knownEntries names i ((k, v) :: rest) seen =
      if name ∈ names then
        if name ∈ seen then .refused ⟨[i], .shape⟩
        else ((name, i, v) :: ·) <$> knownEntries names (i + 1) rest (name :: seen)
      else knownEntries names (i + 1) rest seen := by
  rw [knownEntries, keyed]
  simp only [List.contains_iff_mem]

/-- What it takes to read one more entry: a key that is new, or one that is not known. -/
theorem knownEntries_cons_ok {names seen : List String} {i : Nat} {k v : Value}
    {rest : List (Value × Value)} {found : List (String × Nat × Value)}
    (read : knownEntries names i ((k, v) :: rest) seen = .ok found) :
    ∃ name, k.keyText? = some name ∧
      ((name ∈ names ∧ name ∉ seen ∧ ∃ others,
          knownEntries names (i + 1) rest (name :: seen) = .ok others ∧ (name, i, v) :: others = found) ∨
        name ∉ names ∧ knownEntries names (i + 1) rest seen = .ok found) := by
  cases keyed : k.keyText? with
  | none =>
    rw [knownEntries, keyed] at read
    cases read
  | some name =>
    refine ⟨name, rfl, ?_⟩
    rw [knownEntries_cons keyed] at read
    by_cases known : name ∈ names
    · rw [if_pos known] at read
      by_cases again : name ∈ seen
      · rw [if_pos again] at read
        cases read
      · rw [if_neg again, Decoded.map_ok_iff] at read
        exact .inl ⟨known, again, read⟩
    · rw [if_neg known] at read
      exact .inr ⟨known, read⟩

/-- A known key of a table whose fields are found is the only one of its name. -/
theorem knownEntries_find? {names seen : List String} {entries : List (Value × Value)} {i : Nat}
    {found : List (String × Nat × Value)} (read : knownEntries names i entries seen = .ok found)
    {k v : Value} (member : (k, v) ∈ entries) {name : String} (keyed : k.keyText? = some name)
    (known : name ∈ names) :
    name ∉ seen ∧ ∃ j, found.find? (fun e => e.1 = name) = some (name, j, v) := by
  induction entries generalizing seen i found with
  | nil => cases member
  | cons entry rest ih =>
    obtain ⟨name', keyed', ⟨_, fresh, others, readLater, rfl⟩ | ⟨unknown, readLater⟩⟩ :=
      knownEntries_cons_ok read
    · rcases List.mem_cons.mp member with rfl | later
      · cases keyed.symm.trans keyed'
        exact ⟨fresh, i, by simp⟩
      · obtain ⟨unseen, j, stands⟩ := ih readLater later
        rw [List.mem_cons, not_or] at unseen
        refine ⟨unseen.2, j, ?_⟩
        rw [List.find?_cons, decide_eq_false (Ne.symm unseen.1)]
        exact stands
    · rcases List.mem_cons.mp member with rfl | later
      · cases keyed.symm.trans keyed'
        exact absurd known unknown
      · exact ih readLater later

theorem otherEntries_isEmpty (names : List String) (entries : List (Value × Value)) :
    (otherEntries names entries).isEmpty = !(Value.table entries).isMisspelt names := by
  rw [Bool.eq_iff_iff, List.isEmpty_iff, otherEntries, List.filter_eq_nil_iff]
  simp only [Value.isMisspelt, Bool.not_eq_true', List.any_eq_false]
  constructor
  · intro spelt entry member
    obtain ⟨i, stands⟩ := List.mem_iff_getElem?.mp member
    have placed : (entry, i) ∈ entries.zipIdx := List.mem_zipIdx_iff_getElem?.mpr stands
    exact spelt (i, entry) (List.mem_map.mpr ⟨(entry, i), placed, rfl⟩)
  · intro spelt placed member
    obtain ⟨⟨entry, i⟩, inside, rfl⟩ := List.mem_map.mp member
    exact spelt entry (List.mem_of_getElem? (List.mem_zipIdx_iff_getElem?.mp inside))

/-- A record that tolerates no other keys is spelt right, and its fields are found. -/
theorem asStrictRecord_ok {names : List String} {v : Value} {r : Record}
    (read : v.asStrictRecord names = .ok r) : v.isMisspelt names = false ∧
      ∀ name ∈ names, ∀ w ∈ v.fieldsNamed name, ∃ i, r.find? name = some (i, w) := by
  cases v with
  | table entries =>
    cases fields : knownEntries names 0 entries [] with
    | refused e =>
      rw [Value.asStrictRecord, Value.asRecord, fields] at read
      cases read
    | ok found =>
      have strict : (Value.table entries).asStrictRecord names =
          if (otherEntries names entries).isEmpty
          then .ok ⟨found, otherEntries names entries, entries.length, false⟩ else wrongShape := by
        rw [Value.asStrictRecord, Value.asRecord, fields]
        rfl
      rw [strict, otherEntries_isEmpty] at read
      by_cases misspelt : (Value.table entries).isMisspelt names
      · rw [misspelt] at read
        cases read
      · rw [Bool.not_eq_true] at misspelt
        rw [misspelt] at read
        cases read
        refine ⟨misspelt, ?_⟩
        intro name known w member
        obtain ⟨⟨k, w⟩, kept, rfl⟩ := List.mem_map.mp member
        obtain ⟨inside, keyed⟩ := List.mem_filter.mp kept
        obtain ⟨_, i, stands⟩ := knownEntries_find? fields inside (by simpa using keyed) known
        exact ⟨i, by rw [Record.find?, stands]; rfl⟩
  | _ => exact ⟨rfl, fun name _ w member => absurd member List.not_mem_nil⟩

namespace Record

variable {r : Record} {name : String} {i : Nat} {v : Value}

theorem accepted_withDefault (found : r.find? name = some (i, v)) (default : α)
    (read : Value → Decoded α) : (r.withDefault name default read).Accepted ↔ (read v).Accepted := by
  rw [withDefault, found]
  exact Decoded.accepted_within i (read v)

section

variable {names : List String} (strict : v.asStrictRecord names = .ok r) (known : name ∈ names)

include strict known

/-- The items of a list that is read as a field can be read. -/
theorem accepted_items {default : List α} {read : Value → Decoded α}
    (accepted : (r.withDefault name default (Value.asList read)).Accepted) :
    ∀ w ∈ v.itemsNamed name, (read w).Accepted := by
  intro w member
  obtain ⟨field, held, inside⟩ := List.mem_flatMap.mp member
  obtain ⟨i, found⟩ := (asStrictRecord_ok strict).2 name known field held
  exact Value.accepted_asList ((accepted_withDefault found _ _).mp accepted) w inside

theorem accepted_optionalItems {read : Value → Decoded α}
    (accepted : (r.optional name (Value.asList read)).Accepted) :
    ∀ w ∈ v.itemsNamed name, (read w).Accepted := by
  intro w member
  obtain ⟨field, held, inside⟩ := List.mem_flatMap.mp member
  obtain ⟨i, found⟩ := (asStrictRecord_ok strict).2 name known field held
  exact Value.accepted_asOptional_asList ((accepted_withDefault found _ _).mp accepted) w inside

/-- A table that is read as an optional field can be read. -/
theorem accepted_optionalTable {read : Value → Decoded α}
    (accepted : (r.optional name read).Accepted) {entries : List (Value × Value)}
    (held : .table entries ∈ v.fieldsNamed name) : (read (.table entries)).Accepted := by
  obtain ⟨i, found⟩ := (asStrictRecord_ok strict).2 name known _ held
  have present : (some <$> read (.table entries)).Accepted :=
    (accepted_withDefault found none (Value.asOptional read)).mp accepted
  exact (Decoded.accepted_map some _).mp present

end

/-! ## Fields whatever their places -/

/-- The field with a name, wherever it stands. -/
def value? (r : Record) (name : String) : Option Value := (r.find? name).map (·.2)

theorem toOption_required (r : Record) (name : String) (read : Value → Decoded α) :
    (r.required name read).toOption = (r.value? name).bind fun v => (read v).toOption := by
  rw [required, value?]
  cases r.find? name with
  | none => rfl
  | some field => exact Decoded.toOption_within field.1 (read field.2)

theorem toOption_withDefault (r : Record) (name : String) (default : α) (read : Value → Decoded α) :
    (r.withDefault name default read).toOption =
      (r.value? name).elim (some default) fun v => (read v).toOption := by
  rw [withDefault, value?]
  cases r.find? name with
  | none => rfl
  | some field => exact Decoded.toOption_within field.1 (read field.2)

end Record

/-- The fields that are found, wherever they stand. -/
def unplaced (found : List (String × Nat × Value)) : List (String × Value) :=
  found.map fun (name, _, v) => (name, v)

theorem Record.value?_eq (r : Record) (name : String) :
    r.value? name = ((unplaced r.entries).find? fun e => e.1 = name).map (·.2) := by
  rw [value?, find?, unplaced, List.find?_map, Option.map_map, Option.map_map]
  rfl

/-- Other keys have no part in which fields are found. -/
theorem knownEntries_filter (names : List String) (fields : List (String × Value))
    (seen : List String) (i j : Nat) :
    (knownEntries names i (fields.map fun (k, v) => (.text k, v)) seen).toOption.map unplaced =
      (knownEntries names j ((fields.filter fun e => names.contains e.1).map fun (k, v) => (.text k, v))
        seen).toOption.map unplaced := by
  induction fields generalizing seen i j with
  | nil => rfl
  | cons field rest ih =>
    obtain ⟨name, v⟩ := field
    have keyed : (Value.text name).keyText? = some name := rfl
    rw [List.map_cons, knownEntries_cons keyed]
    by_cases known : name ∈ names
    · rw [List.filter_cons_of_pos (by simpa using known), List.map_cons, knownEntries_cons keyed,
        if_pos known, if_pos known]
      by_cases again : name ∈ seen
      · rw [if_pos again, if_pos again]
        rfl
      · have later := congrArg (Option.map ((name, v) :: ·)) (ih (name :: seen) (i + 1) (j + 1))
        rw [if_neg again, if_neg again, Decoded.toOption_map, Decoded.toOption_map]
        simp only [Option.map_map] at later ⊢
        exact later
    · rw [List.filter_cons_of_neg (by simpa using known), if_neg known]
      exact ih seen (i + 1) j

/-- A reading of a record that looks at its fields only is not concerned with other keys. -/
theorem toOption_asRecord_filter {names : List String} {build : Record → Decoded α}
    (looks : ∀ r r' : Record, (∀ name, r.value? name = r'.value? name) →
      (build r).toOption = (build r').toOption) (fields : List (String × Value)) :
    (((Value.fields fields).asRecord names).andThen build).toOption =
      (((Value.fields (fields.filter fun e => names.contains e.1)).asRecord names).andThen
        build).toOption := by
  have same := knownEntries_filter names fields [] 0 0
  rw [Value.fields, Value.fields, Value.asRecord, Value.asRecord, Decoded.toOption_andThen,
    Decoded.toOption_andThen, Decoded.toOption_map, Decoded.toOption_map]
  cases found : (knownEntries names 0 (fields.map fun (k, v) => (.text k, v)) []).toOption with
  | none =>
    rw [found, Option.map_none, eq_comm, Option.map_eq_none_iff] at same
    rw [same]
    rfl
  | some entries =>
    rw [found, Option.map_some, eq_comm, Option.map_eq_some_iff] at same
    obtain ⟨entries', found', sameFields⟩ := same
    rw [found']
    refine looks _ _ fun name => ?_
    rw [Record.value?_eq, Record.value?_eq, sameFields]

end TechniqueScan.Document
