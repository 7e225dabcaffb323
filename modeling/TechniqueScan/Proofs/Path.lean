import Mathlib.Data.List.Basic
import TechniqueScan.Path

/-!
What paths mean. A name that is put below a path becomes its last component, whatever the path is, and the
last component by which an input is filed is such a name; the paths of what is above a path have the
beginnings of its components.
-/

namespace TechniqueScan.Path

/-- Whether characters name one thing in a directory: not nothing, no way through several directories, and
neither the directory itself nor the one above it. -/
structure IsName (cs : List Char) : Prop where
  filled : cs ≠ []
  single : '/' ∉ cs
  notHere : cs ≠ ['.']
  notUp : cs ≠ ['.', '.']

instance (cs : List Char) : Decidable (IsName cs) :=
  decidable_of_iff (cs ≠ [] ∧ '/' ∉ cs ∧ cs ≠ ['.'] ∧ cs ≠ ['.', '.'])
    ⟨fun ⟨filled, single, notHere, notUp⟩ => ⟨filled, single, notHere, notUp⟩,
      fun ⟨filled, single, notHere, notUp⟩ => ⟨filled, single, notHere, notUp⟩⟩

/-! ## Pieces -/

theorem pieces_ne_nil (cs : List Char) : pieces cs ≠ [] := by
  cases cs with
  | nil => simp [pieces]
  | cons c cs =>
    rw [pieces]
    split
    · simp
    · split <;> simp

@[simp] theorem pieces_slash (cs : List Char) : pieces ('/' :: cs) = [] :: pieces cs := by
  simp [pieces]

/-- A character that is no slash goes into the first piece. -/
theorem pieces_cons {c : Char} (plain : c ≠ '/') (cs : List Char) :
    ∃ p ps, pieces cs = p :: ps ∧ pieces (c :: cs) = (c :: p) :: ps := by
  obtain ⟨p, ps, split⟩ := List.exists_cons_of_ne_nil (pieces_ne_nil cs)
  refine ⟨p, ps, split, ?_⟩
  rw [pieces, if_neg plain, split]

theorem single_of_mem_pieces {cs p : List Char} (member : p ∈ pieces cs) : '/' ∉ p := by
  induction cs generalizing p with
  | nil => simp_all [pieces]
  | cons c cs ih =>
    by_cases slash : c = '/'
    · subst slash
      rw [pieces_slash] at member
      rcases List.mem_cons.mp member with rfl | later
      · exact List.not_mem_nil
      · exact ih later
    · obtain ⟨first, rest, split, split'⟩ := pieces_cons slash cs
      rw [split'] at member
      rcases List.mem_cons.mp member with rfl | later
      · exact List.not_mem_cons_of_ne_of_not_mem (Ne.symm slash) (ih (split ▸ List.mem_cons_self))
      · exact ih (split ▸ List.mem_cons_of_mem first later)

theorem pieces_of_single {cs : List Char} (single : '/' ∉ cs) : pieces cs = [cs] := by
  induction cs with
  | nil => rfl
  | cons c cs ih =>
    obtain ⟨plain, rest⟩ := List.ne_and_not_mem_of_not_mem_cons single
    rw [pieces, if_neg (Ne.symm plain), ih rest]

/-- The pieces on both sides of a slash. -/
theorem pieces_append_slash (cs ds : List Char) : pieces (cs ++ '/' :: ds) = pieces cs ++ pieces ds := by
  induction cs with
  | nil => exact pieces_slash ds
  | cons c cs ih =>
    by_cases slash : c = '/'
    · subst slash
      rw [List.cons_append, pieces_slash, pieces_slash, ih, List.cons_append]
    · obtain ⟨p, ps, split, split'⟩ := pieces_cons slash cs
      obtain ⟨q, qs, whole, whole'⟩ := pieces_cons slash (cs ++ '/' :: ds)
      rw [ih, split, List.cons_append] at whole
      obtain ⟨rfl, rfl⟩ := List.cons.inj whole
      rw [List.cons_append, whole', split', List.cons_append]

/-! ## Components -/

/-- The components of a path by its characters. -/
def componentsOf (cs : List Char) : List Component :=
  (if cs.head? == some '/' then [.root] else if (pieces cs).head? == some ['.'] then [.here] else [])
    ++ (pieces cs).filterMap component?

theorem components_eq (path : String) : components path = componentsOf path.toList := rfl

theorem component?_eq_name_iff {p cs : List Char} (single : '/' ∉ p) :
    component? p = some (.name cs) ↔ p = cs ∧ IsName cs := by
  unfold component?
  constructor
  · intro found
    split at found
    · cases found
    · rename_i solid
      split at found
      · cases found
      · rename_i notUp
        obtain rfl := Component.name.inj (Option.some.inj found)
        exact ⟨rfl, fun empty => solid (.inl empty), single, fun here => solid (.inr here), notUp⟩
  · rintro ⟨rfl, name⟩
    rw [if_neg (not_or.mpr ⟨name.filled, name.notHere⟩), if_neg name.notUp]

theorem IsName.component? {cs : List Char} (name : IsName cs) :
    Path.component? cs = some (.name cs) :=
  (component?_eq_name_iff name.single).mpr ⟨rfl, name⟩

/-- The components of a name are that name. -/
theorem IsName.componentsOf {cs : List Char} (name : IsName cs) :
    Path.componentsOf cs = [.name cs] := by
  have relative : cs.head? ≠ some '/' := fun slash => name.single (List.mem_of_head? slash)
  simp [Path.componentsOf, pieces_of_single name.single, relative, name.notHere, name.component?]

/-- What stands in front of a slash begins a path, if anything does. -/
theorem componentsOf_append_slash {cs : List Char} (filled : cs ≠ []) (ds : List Char) :
    componentsOf (cs ++ '/' :: ds) = componentsOf cs ++ (pieces ds).filterMap component? := by
  have first : (cs ++ '/' :: ds).head? = cs.head? := List.head?_append_of_ne_nil cs filled
  have begins : (pieces cs ++ pieces ds).head? = (pieces cs).head? :=
    List.head?_append_of_ne_nil _ (pieces_ne_nil cs)
  rw [componentsOf, componentsOf, pieces_append_slash, first, begins, List.filterMap_append,
    List.append_assoc]

/-- Every name in a path is one. -/
theorem isName_of_mem_components {path : String} {cs : List Char} (member : .name cs ∈ components path) :
    IsName cs := by
  rcases List.mem_append.mp member with start | rest
  · split at start
    · simp at start
    · split at start <;> simp at start
  · obtain ⟨p, piece, found⟩ := List.mem_filterMap.mp rest
    exact ((component?_eq_name_iff (single_of_mem_pieces piece)).mp found).2

/-- The last component of a path, where that is a name. -/
theorem fileName?_eq_some_iff {path name : String} :
    fileName? path = some name ↔ (components path).getLast? = some (.name name.toList) := by
  unfold fileName?
  split
  · rename_i cs last
    rw [last]
    simp [← String.toList_inj]
  · rename_i last
    exact ⟨nofun, fun found => absurd found (last _)⟩

theorem isName_of_fileName? {path name : String} (found : fileName? path = some name) :
    IsName name.toList :=
  isName_of_mem_components (List.mem_of_getLast? (fileName?_eq_some_iff.mp found))

/-- Inputs are filed by a name, also those whose path ends in none. -/
theorem isName_outputName (path : String) : IsName (outputName path).toList := by
  unfold outputName
  cases found : fileName? path with
  | none =>
    rw [Option.getD_none]
    decide
  | some name => exact isName_of_fileName? found

/-! ## Joining -/

theorem IsName.isAbsolute {name : String} (plain : IsName name.toList) : Path.isAbsolute name = false := by
  have relative : name.toList.head? ≠ some '/' := fun slash => plain.single (List.mem_of_head? slash)
  simp [Path.isAbsolute, relative]

/-- A name put below a path is its last component, whatever that path is. -/
theorem components_join (base : String) {name : String} (plain : IsName name.toList) :
    components (join base name) = components base ++ [.name name.toList] := by
  have last : (pieces name.toList).filterMap component? = [.name name.toList] := by
    simp [pieces_of_single plain.single, plain.component?]
  rw [join, plain.isAbsolute, if_neg Bool.false_ne_true]
  simp only [components_eq]
  by_cases empty : base.toList = []
  · have nothing : base = "" := String.toList_eq_nil_iff.mp empty
    subst nothing
    exact plain.componentsOf
  · by_cases slashed : base.toList.getLast? = some '/'
    · -- The slash at the end of the path is the one in front of the name.
      obtain ⟨cs, split⟩ := List.getLast?_eq_some_iff.mp slashed
      rw [if_pos (by simp [slashed]), String.toList_append, split, List.append_assoc, List.singleton_append]
      cases cs with
      | nil => simp [componentsOf, last, pieces, component?]
      | cons c cs =>
        rw [componentsOf_append_slash (List.cons_ne_nil c cs),
          componentsOf_append_slash (List.cons_ne_nil c cs), last]
        simp [pieces, component?]
    · have filled : base.isEmpty = false := by
        simpa [String.isEmpty_iff, ← String.toList_eq_nil_iff] using empty
      rw [if_neg (by simp [slashed, filled]), String.toList_append, String.toList_append]
      change componentsOf ((base.toList ++ ['/']) ++ name.toList) = _
      rw [List.append_assoc, List.singleton_append, componentsOf_append_slash empty, last]

/-- Joining puts something in front of a name, and nothing behind it. -/
theorem exists_join (base : String) {name : String} (plain : IsName name.toList) :
    ∃ front, join base name = front ++ name := by
  rw [join, plain.isAbsolute, if_neg Bool.false_ne_true]
  split
  · exact ⟨base, rfl⟩
  · exact ⟨base ++ "/", rfl⟩

/-- The text of a path below one that ends in a name. -/
theorem join_join (base : String) {upper lower : String} (above : IsName upper.toList)
    (below : IsName lower.toList) : join (join base upper) lower = join base upper ++ "/" ++ lower := by
  obtain ⟨front, split⟩ := exists_join base above
  have characters : (join base upper).toList = front.toList ++ upper.toList := by
    rw [split, String.toList_append]
  have filled : join base upper ≠ "" := by
    intro empty
    rw [empty] at characters
    exact above.filled (List.append_eq_nil_iff.mp characters.symm).2
  have unslashed : (join base upper).toList.getLast? ≠ some '/' := by
    intro slash
    rw [characters, List.getLast?_append_of_ne_nil _ above.filled] at slash
    exact above.single (List.mem_of_getLast? slash)
  rw [join, below.isAbsolute, if_neg Bool.false_ne_true, if_neg (by simp [filled, unslashed])]

/-! ## What is above -/

/-- Whether a component can stand behind another one. -/
def Component.Inner : Component → Prop
  | .up => True
  | .name cs => IsName cs
  | _ => False

/-- Components as those of a path are: only the first one can be the root or the dot in front. -/
def Proper : List Component → Prop
  | [] => True
  | c :: rest => (c.Inner ∨ c = .root ∨ c = .here) ∧ ∀ c ∈ rest, c.Inner

theorem inner_of_component? {p : List Char} (single : '/' ∉ p) {c : Component}
    (found : component? p = some c) : c.Inner := by
  cases c with
  | name cs => exact ((component?_eq_name_iff single).mp found).2
  | up => trivial
  | root | here =>
    unfold component? at found
    split at found
    · cases found
    · split at found <;> cases found

theorem proper_components (path : String) : Proper (components path) := by
  have inner : ∀ c ∈ (pieces path.toList).filterMap component?, c.Inner := by
    intro c member
    obtain ⟨p, piece, found⟩ := List.mem_filterMap.mp member
    exact inner_of_component? (single_of_mem_pieces piece) found
  rw [components_eq, componentsOf]
  split
  · exact ⟨.inr (.inl rfl), inner⟩
  · split
    · exact ⟨.inr (.inr rfl), inner⟩
    · rw [List.nil_append]
      cases rest : (pieces path.toList).filterMap component? with
      | nil => trivial
      | cons c cs =>
        rw [rest] at inner
        exact ⟨.inl (inner c List.mem_cons_self), fun c later => inner c (List.mem_cons_of_mem _ later)⟩

theorem Proper.take {cs : List Component} (proper : Proper cs) (n : Nat) : Proper (cs.take n) := by
  cases cs with
  | nil => simp [Proper]
  | cons c rest =>
    cases n with
    | zero => trivial
    | succ n => exact ⟨proper.1, fun c member => proper.2 c (List.mem_of_mem_take member)⟩

theorem Component.Inner.single {c : Component} (inner : c.Inner) : '/' ∉ c.text := by
  cases c with
  | up => decide
  | name cs => exact IsName.single inner
  | root | here => exact inner.elim

theorem Component.Inner.component? {c : Component} (inner : c.Inner) : Path.component? c.text = some c := by
  cases c with
  | up => rfl
  | name cs => exact IsName.component? inner
  | root | here => exact inner.elim

theorem ofComponents_singleton {c : Component} (notRoot : c ≠ .root) :
    ofComponents [c] = String.ofList c.text := by
  cases c with
  | root => exact absurd rfl notRoot
  | here | up | name => rfl

theorem ofComponents_cons {c : Component} (notRoot : c ≠ .root) {rest : List Component} (more : rest ≠ []) :
    ofComponents (c :: rest) = String.ofList c.text ++ "/" ++ ofComponents rest := by
  cases rest with
  | nil => exact absurd rfl more
  | cons d rest =>
    cases c with
    | root => exact absurd rfl notRoot
    | here | up | name => rfl

/-- The pieces of the path of some inner components mean these components. -/
theorem pieces_ofComponents {cs : List Component} (inner : ∀ c ∈ cs, c.Inner) :
    (pieces (ofComponents cs).toList).filterMap component? = cs := by
  induction cs with
  | nil => rfl
  | cons c rest ih =>
    obtain ⟨first, later⟩ := List.forall_mem_cons.mp inner
    have notRoot : c ≠ .root := by
      rintro rfl
      exact first
    by_cases more : rest = []
    · subst more
      simp [ofComponents_singleton notRoot, pieces_of_single first.single, first.component?]
    · rw [ofComponents_cons notRoot more]
      simp [pieces_append_slash, pieces_of_single first.single, first.component?, ih later]

theorem componentsOf_text {c : Component} (first : c.Inner ∨ c = .root ∨ c = .here) :
    componentsOf c.text = [c] := by
  rcases first with inner | rfl | rfl
  · cases c with
    | up => rfl
    | name cs => exact IsName.componentsOf inner
    | root | here => exact inner.elim
  · rfl
  · rfl

/-- The path of proper components has these components. -/
theorem components_ofComponents {cs : List Component} (proper : Proper cs) :
    components (ofComponents cs) = cs := by
  cases cs with
  | nil => rfl
  | cons c rest =>
    obtain ⟨first, inner⟩ := proper
    rw [components_eq]
    by_cases root : c = .root
    · subst root
      have later := pieces_ofComponents inner
      simp [ofComponents, componentsOf, component?, later]
    · by_cases more : rest = []
      · rw [more, ofComponents_singleton root, String.toList_ofList, componentsOf_text first]
      · have filled : c.text ≠ [] := by
          intro empty
          have nothing := componentsOf_text first
          rw [empty] at nothing
          cases nothing
        rw [ofComponents_cons root more, String.toList_append, String.toList_append, String.toList_ofList]
        change componentsOf ((c.text ++ ['/']) ++ _) = _
        rw [List.append_assoc, List.singleton_append, componentsOf_append_slash filled,
          componentsOf_text first, pieces_ofComponents inner]
        rfl

/-- A path above another one has a beginning of its components. -/
theorem components_of_mem_ancestors {path above : String} (member : above ∈ ancestors path) :
    components above <+: components path := by
  obtain ⟨member, _⟩ := List.mem_filter.mp member
  obtain ⟨n, _, rfl⟩ := List.mem_map.mp (List.mem_reverse.mp member)
  rw [components_ofComponents ((proper_components path).take n)]
  exact List.take_prefix n _

end TechniqueScan.Path
