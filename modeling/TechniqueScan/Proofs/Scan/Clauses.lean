import TechniqueScan.Proofs.Catalogue.Validation
import TechniqueScan.Proofs.Scan.Lookup
import TechniqueScan.Proofs.Scan.Reference

/-!
The clauses that a fact hits by itself. Each look-up of an index finds the clauses of one kind of
pattern; together they find exactly the clauses whose patterns accept the fact.
-/

namespace TechniqueScan.SignatureIndex

variable {α : Type} {category : Category} {signatures : List (Signature α)}

theorem mem_placedClauses (p : Pattern) (place : ClauseRef) :
    (p, place) ∈ placedClauses signatures ↔
      ∃ s, signatures[place.signature]? = some s ∧ s.clauses[place.clause]? = some p := by
  rw [placedClauses, List.mem_flatMap]
  constructor
  · rintro ⟨⟨s, i⟩, listed, placed⟩
    obtain ⟨⟨q, k⟩, inside, same⟩ := List.mem_map.mp placed
    cases same
    exact ⟨s, List.mem_zipIdx_iff_getElem?.mp listed, List.mem_zipIdx_iff_getElem?.mp inside⟩
  · rintro ⟨s, listed, inside⟩
    exact ⟨(s, place.signature), List.mem_zipIdx_iff_getElem?.mpr listed,
      List.mem_map.mpr ⟨(p, place.clause), List.mem_zipIdx_iff_getElem?.mpr inside, rfl⟩⟩

/-! ## What each arrangement finds -/

theorem mem_names (name : String) (place : ClauseRef) :
    place ∈ (build category signatures).names.getD name [] ↔
      ∃ ns, (.names ns, place) ∈ placedClauses signatures ∧ name ∈ ns := by
  rw [build, mem_fileUnder_getD, List.mem_flatMap]
  constructor
  · rintro ⟨⟨p, place'⟩, placed, filed⟩
    cases p with
    | names ns =>
      obtain ⟨n, member, same⟩ := List.mem_map.mp filed
      cases same
      exact ⟨ns, placed, member⟩
    | _ => cases filed
  · rintro ⟨ns, placed, member⟩
    exact ⟨(.names ns, place), placed, List.mem_map.mpr ⟨name, member, rfl⟩⟩

theorem mem_needles (c : Char) (needle : List Char) (place : ClauseRef) :
    (needle, place) ∈ (build category signatures).needles.getD c [] ↔
      ∃ ts, (.needles ts, place) ∈ placedClauses signatures ∧
        ∃ t ∈ ts, t.toList = needle ∧ needle.head? = some c := by
  rw [build, mem_fileUnder_getD, List.mem_flatMap]
  constructor
  · rintro ⟨⟨p, place'⟩, placed, filed⟩
    cases p with
    | needles ts =>
      obtain ⟨t, member, same⟩ := List.mem_filterMap.mp filed
      obtain ⟨c', first, same⟩ := Option.map_eq_some_iff.mp same
      cases same
      exact ⟨ts, placed, t, member, rfl, first⟩
    | _ => cases filed
  · rintro ⟨ts, placed, t, member, rfl, first⟩
    refine ⟨(.needles ts, place), placed, List.mem_filterMap.mpr ⟨t, member, ?_⟩⟩
    rw [first]
    rfl

theorem mem_symbolRegexes (r : Regex) (place : ClauseRef) :
    (r, place) ∈ (build category signatures).symbolRegexes ↔
      (.regex .symbol r, place) ∈ placedClauses signatures := by
  rw [build, List.mem_filterMap]
  constructor
  · rintro ⟨⟨p, place'⟩, placed, filed⟩
    cases p with
    | regex target r' =>
      cases target with
      | symbol =>
        cases filed
        exact placed
      | string => cases filed
    | _ => cases filed
  · intro placed
    exact ⟨(.regex .symbol r, place), placed, rfl⟩

theorem mem_stringRegexes (r : Regex) (place : ClauseRef) :
    (r, place) ∈ (build category signatures).stringRegexes ↔
      (.regex .string r, place) ∈ placedClauses signatures := by
  rw [build, List.mem_filterMap]
  constructor
  · rintro ⟨⟨p, place'⟩, placed, filed⟩
    cases p with
    | regex target r' =>
      cases target with
      | symbol => cases filed
      | string =>
        cases filed
        exact placed
    | _ => cases filed
  · intro placed
    exact ⟨(.regex .string r, place), placed, rfl⟩

theorem mem_numbers (value : UInt64) (place : ClauseRef) :
    place ∈ (build category signatures).numbers.getD value [] ↔
      ∃ n, (.numbers n, place) ∈ placedClauses signatures ∧ value ∈ n.values := by
  rw [build, mem_fileUnder_getD, List.mem_flatMap]
  constructor
  · rintro ⟨⟨p, place'⟩, placed, filed⟩
    cases p with
    | numbers n =>
      obtain ⟨v, member, same⟩ := List.mem_map.mp filed
      cases same
      exact ⟨n, placed, member⟩
    | _ => cases filed
  · rintro ⟨n, placed, member⟩
    exact ⟨(.numbers n, place), placed, List.mem_map.mpr ⟨value, member, rfl⟩⟩

theorem mem_ranges (value : UInt64) (place : ClauseRef) :
    place ∈ (build category signatures).ranges.lookup value ↔
      ∃ n low high, (.numbers n, place) ∈ placedClauses signatures ∧ n.range = some (low, high) ∧
        low ≤ value ∧ value ≤ high := by
  rw [build, RangeTable.lookup_build, clausesAt, List.mem_mergeSort, List.mem_map]
  constructor
  · rintro ⟨r, kept, rfl⟩
    obtain ⟨member, holds⟩ := List.mem_filter.mp kept
    obtain ⟨⟨p, place'⟩, placed, made⟩ := List.mem_filterMap.mp member
    cases p with
    | numbers n =>
      obtain ⟨⟨low, high⟩, bounds, rfl⟩ := Option.map_eq_some_iff.mp made
      simp only [ClauseRange.contains, Bool.and_eq_true, decide_eq_true_eq] at holds
      exact ⟨n, low, high, placed, bounds, holds⟩
    | _ => cases made
  · rintro ⟨n, low, high, placed, bounds, above, below⟩
    refine ⟨⟨low, high, place⟩, List.mem_filter.mpr ⟨List.mem_filterMap.mpr
      ⟨(.numbers n, place), placed, ?_⟩, ?_⟩, rfl⟩
    · simp [bounds]
    · simp [ClauseRange.contains, above, below]

theorem mem_windows (mnemonic : String) (steps : List OpcodeStep) (place : ClauseRef) :
    (steps, place) ∈ (build category signatures).windows.getD mnemonic [] ↔
      (.window steps, place) ∈ placedClauses signatures ∧
        ∃ s, steps.head? = some s ∧ s.mnemonic = mnemonic := by
  rw [build, mem_fileUnder_getD, List.mem_filterMap]
  constructor
  · rintro ⟨⟨p, place'⟩, placed, filed⟩
    cases p with
    | window steps' =>
      obtain ⟨s, first, same⟩ := Option.map_eq_some_iff.mp filed
      cases same
      exact ⟨placed, s, first, rfl⟩
    | _ => cases filed
  · rintro ⟨placed, s, first, rfl⟩
    exact ⟨(.window steps, place), placed, by simp [first]⟩

/-! ## The clauses of a fact -/

/-- The places of the clauses whose patterns satisfy a condition. -/
def Placed (signatures : List (Signature α)) (accepts : Pattern → Bool) (place : ClauseRef) : Prop :=
  ∃ p, (p, place) ∈ placedClauses signatures ∧ accepts p

theorem mem_symbolClauses (name : String) (place : ClauseRef) :
    place ∈ (build category signatures).symbolClauses name ↔
      Placed signatures (·.acceptsName name) place := by
  rw [symbolClauses]
  dsimp only
  rw [List.mem_append, List.mem_append, mem_names]
  constructor
  · rintro ((⟨ns, placed, member⟩ | bare) | byRegex)
    · exact ⟨.names ns, placed, by simp [Pattern.acceptsName, member]⟩
    · cases h : bareName? name with
      | none => simp [h] at bare
      | some b =>
        simp only [h, Option.map_some, Option.getD_some] at bare
        obtain ⟨ns, placed, member⟩ := (mem_names b place).mp bare
        exact ⟨.names ns, placed, by simp [Pattern.acceptsName, h, member]⟩
    · obtain ⟨⟨r, place'⟩, kept, rfl⟩ := List.mem_map.mp byRegex
      obtain ⟨listed, hits⟩ := List.mem_filter.mp kept
      exact ⟨.regex .symbol r, (mem_symbolRegexes r place').mp listed, hits⟩
  · rintro ⟨p, placed, accepted⟩
    cases p with
    | names ns =>
      simp only [Pattern.acceptsName, Bool.or_eq_true, List.contains_iff_mem] at accepted
      rcases accepted with whole | bare
      · exact .inl (.inl ⟨ns, placed, whole⟩)
      · cases h : bareName? name with
        | none => simp [h] at bare
        | some b =>
          simp only [h, Option.any_some, List.contains_iff_mem] at bare
          exact .inl (.inr (by simpa [h] using (mem_names b place).mpr ⟨ns, placed, bare⟩))
    | regex target r =>
      cases target with
      | symbol =>
        refine .inr (List.mem_map.mpr ⟨(r, place), List.mem_filter.mpr ⟨?_, accepted⟩, rfl⟩)
        exact (mem_symbolRegexes r place).mpr placed
      | string => cases accepted
    | _ => cases accepted

/-- Texts are looked for at every position by their first character. -/
theorem mem_needleClauses (cs : List Char) (place : ClauseRef) :
    place ∈ (build category signatures).needleClauses cs ↔
      ∃ ts, (.needles ts, place) ∈ placedClauses signatures ∧
        ∃ t ∈ ts, t.toList ≠ [] ∧ occursIn t.toList cs := by
  induction cs with
  | nil =>
    simp only [needleClauses, List.not_mem_nil, occursIn, List.isEmpty_iff, false_iff]
    rintro ⟨ts, _, t, _, filled, empty⟩
    exact filled empty
  | cons c rest ih =>
    rw [needleClauses, List.mem_append, ih]
    simp only [occursIn, Bool.or_eq_true]
    constructor
    · rintro (here | ⟨ts, placed, t, member, filled, later⟩)
      · obtain ⟨⟨needle, place'⟩, kept, rfl⟩ := List.mem_map.mp here
        obtain ⟨filed, starts⟩ := List.mem_filter.mp kept
        obtain ⟨ts, placed, t, member, rfl, first⟩ := (mem_needles c needle place').mp filed
        refine ⟨ts, placed, t, member, ?_, .inl starts⟩
        intro empty
        simp [empty] at first
      · exact ⟨ts, placed, t, member, filled, .inr later⟩
    · rintro ⟨ts, placed, t, member, filled, here | later⟩
      · obtain ⟨d, needle, same⟩ := List.exists_cons_of_ne_nil filled
        have first : t.toList.head? = some c := by
          rw [same] at here ⊢
          simp only [List.isPrefixOf, Bool.and_eq_true, beq_iff_eq] at here
          rw [here.1]
          rfl
        exact .inl (List.mem_map.mpr ⟨(t.toList, place), List.mem_filter.mpr
          ⟨(mem_needles c _ place).mpr ⟨ts, placed, t, member, rfl, first⟩, here⟩, rfl⟩)
      · exact .inr ⟨ts, placed, t, member, filled, later⟩

theorem mem_stringClauses (filled : ∀ s ∈ signatures, ∀ p ∈ s.clauses, p.Filled) (value : String)
    (place : ClauseRef) :
    place ∈ (build category signatures).stringClauses value ↔
      Placed signatures (·.acceptsString value) place := by
  rw [stringClauses, List.mem_append, mem_needleClauses]
  constructor
  · rintro (⟨ts, placed, t, member, _, occurs⟩ | byRegex)
    · exact ⟨.needles ts, placed, List.any_eq_true.mpr ⟨t, member, occurs⟩⟩
    · obtain ⟨⟨r, place'⟩, kept, rfl⟩ := List.mem_map.mp byRegex
      obtain ⟨listed, hits⟩ := List.mem_filter.mp kept
      exact ⟨.regex .string r, (mem_stringRegexes r place').mp listed, hits⟩
  · rintro ⟨p, placed, accepted⟩
    cases p with
    | needles ts =>
      obtain ⟨t, member, occurs⟩ := List.any_eq_true.mp accepted
      obtain ⟨s, listed, inside⟩ := (mem_placedClauses _ _).mp placed
      have nonempty := filled s (List.mem_of_getElem? listed) _ (List.mem_of_getElem? inside) t member
      exact .inl ⟨ts, placed, t, member, nonempty, occurs⟩
    | regex target r =>
      cases target with
      | symbol => cases accepted
      | string =>
        refine .inr (List.mem_map.mpr ⟨(r, place), List.mem_filter.mpr ⟨?_, accepted⟩, rfl⟩)
        exact (mem_stringRegexes r place).mpr placed
    | _ => cases accepted

theorem mem_numberClauses (value : UInt64) (place : ClauseRef) :
    place ∈ (build category signatures).numberClauses value ↔
      Placed signatures (·.acceptsNumber value) place := by
  rw [numberClauses, List.mem_append, mem_numbers, mem_ranges]
  constructor
  · rintro (⟨n, placed, member⟩ | ⟨n, low, high, placed, bounds, above, below⟩)
    · exact ⟨.numbers n, placed, by simp [Pattern.acceptsNumber, NumberPattern.contains, member]⟩
    · exact ⟨.numbers n, placed, by
        simp [Pattern.acceptsNumber, NumberPattern.contains, bounds, above, below]⟩
  · rintro ⟨p, placed, accepted⟩
    cases p with
    | numbers n =>
      simp only [Pattern.acceptsNumber, NumberPattern.contains, Bool.or_eq_true,
        List.contains_iff_mem] at accepted
      rcases accepted with member | inside
      · exact .inl ⟨n, placed, member⟩
      · obtain ⟨⟨low, high⟩, bounds, holds⟩ := (Option.any_eq_true _ _).mp inside
        simp only [Bool.and_eq_true, decide_eq_true_eq] at holds
        exact .inr ⟨n, low, high, placed, bounds, holds⟩
    | _ => cases accepted

/-- A fact hits exactly the clauses whose patterns accept it. -/
theorem mem_factClauses (filled : ∀ s ∈ signatures, ∀ p ∈ s.clauses, p.Filled) (f : Fact)
    (place : ClauseRef) :
    place ∈ (build category signatures).factClauses f ↔ Placed signatures (·.accepts f) place := by
  obtain ⟨location, seen, context⟩ := f
  cases seen with
  | symbol name kind => exact mem_symbolClauses name place
  | reference r =>
    simp only [factClauses, Pattern.accepts]
    cases r.targetName with
    | none => simp [Placed]
    | some name => exact mem_symbolClauses name place
  | string value => exact mem_stringClauses filled value place
  | number value index => exact mem_numberClauses value place
  | instruction ins => simp [factClauses, Placed, Pattern.accepts]

end TechniqueScan.SignatureIndex
