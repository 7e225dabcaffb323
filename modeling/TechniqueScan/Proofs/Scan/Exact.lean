import TechniqueScan.Proofs.Scan.Windows

/-!
A scan finds exactly the hits of its signatures. The hits of clauses are gathered by signature and,
where a signature has several clauses, by procedure; what is reported are the hits that the
signatures have without any arrangement, in ascending order and each once.
-/

namespace TechniqueScan

/-! ## Lowest addresses -/

theorem LowestAddress.unique {m : FactModel} {is : List Nat} {a b : UInt64}
    (first : LowestAddress m is a) (second : LowestAddress m is b) : a = b := by
  obtain ⟨⟨i, inA, f, foundA, rfl⟩, leastA⟩ := first
  obtain ⟨⟨j, inB, g, foundB, rfl⟩, leastB⟩ := second
  exact UInt64.le_antisymm (leastA j inB g foundB) (leastB i inA f foundA)

namespace SignatureIndex

theorem leastAddress_lowest {m : FactModel} {is : List Nat}
    (present : ∃ i ∈ is, ∃ f, m.fact? i = some f) : LowestAddress m is (leastAddress m is) := by
  have member (a : UInt64) : a ∈ is.filterMap (fun i => (m.fact? i).map (·.location.address)) ↔
      ∃ i ∈ is, ∃ f, m.fact? i = some f ∧ f.location.address = a := by
    simp only [List.mem_filterMap, Option.map_eq_some_iff]
  rw [leastAddress]
  cases addresses : is.filterMap fun i => (m.fact? i).map (·.location.address) with
  | nil =>
    obtain ⟨i, inside, f, found⟩ := present
    have listed := (member f.location.address).mpr ⟨i, inside, f, found, rfl⟩
    rw [addresses] at listed
    cases listed
  | cons a rest =>
    obtain ⟨reached, least⟩ := foldl_least a rest
    rw [addresses] at member
    refine ⟨(member _).mp reached, ?_⟩
    intro i inside f found
    exact least _ ((member _).mpr ⟨i, inside, f, found, rfl⟩)

end SignatureIndex

/-! ## Hits of patterns -/

theorem PatternHit.fact_exists {m : FactModel} {p : Pattern} {l : Location} {is : List Nat}
    (hit : PatternHit m p l is) : ∀ i ∈ is, ∃ f, m.fact? i = some f := by
  cases hit with
  | fact found _ =>
    intro i member
    rw [List.mem_singleton.mp member]
    exact ⟨_, found⟩
  | run _ satisfied _ =>
    intro i member
    obtain ⟨s, _, f, _, found, _⟩ := exists_of_forall₂_right satisfied member
    exact ⟨f, found⟩

theorem PatternHit.nonempty {m : FactModel} {p : Pattern} {l : Location} {is : List Nat}
    (hit : PatternHit m p l is) : ∃ i, i ∈ is := by
  cases hit with
  | fact _ _ => exact ⟨_, List.mem_singleton_self _⟩
  | run _ _ _ => exact ⟨_, List.mem_cons_self⟩

theorem SignatureHit.listed {α : Type} {m : FactModel} {signatures : List (Signature α)} {hit : Hit}
    (found : SignatureHit m signatures hit) : ∃ s, signatures[hit.signature]? = some s := by
  cases found with
  | single listed _ _ => exact ⟨_, listed⟩
  | joint listed _ _ _ _ _ => exact ⟨_, listed⟩

namespace SignatureIndex

variable {α : Type} {category : Category} {signatures : List (Signature α)} {m : FactModel}

theorem clauseCount_build {k : Nat} {s : Signature α} (listed : signatures[k]? = some s) :
    (build category signatures).clauseCount k = s.clauses.length := by
  simp [clauseCount, build, listed]

/-- The hits gathered for a signature are the hits of its clauses, each with its position. -/
def Gathered (m : FactModel) (s : Signature α) (hits : List ClauseHit) : Prop :=
  ∀ k l is, (∃ h ∈ hits, h.clause.clause = k ∧ h.location = l ∧ h.facts = is) ↔
    ∃ p, s.clauses[k]? = some p ∧ PatternHit m p l is

/-! ## Signatures of one clause -/

theorem mem_signatureHits_single {k : Nat} {s : Signature α} {hits : List ClauseHit} {p : Pattern}
    (listed : signatures[k]? = some s) (only : s.clauses = [p]) (gathered : Gathered m s hits)
    (hit : Hit) :
    hit ∈ signatureHits m k 1 hits ↔ hit.signature = k ∧ SignatureHit m signatures hit := by
  rw [signatureHits, if_pos rfl, List.mem_map]
  constructor
  · rintro ⟨h, member, rfl⟩
    obtain ⟨q, placed, found⟩ := (gathered _ _ _).mp ⟨h, member, rfl, rfl, rfl⟩
    rw [only, List.getElem?_singleton] at placed
    split at placed
    · cases placed
      exact ⟨rfl, .single listed only found⟩
    · cases placed
  · rintro ⟨rfl, found⟩
    cases found with
    | @single _ s' q l is listed' only' found =>
      cases listed.symm.trans listed'
      cases only.symm.trans only'
      obtain ⟨h, member, _, rfl, rfl⟩ := (gathered 0 l is).mpr ⟨p, by rw [only]; rfl, found⟩
      exact ⟨h, member, rfl⟩
    | joint listed' several =>
      cases listed.symm.trans listed'
      simp [Signature.isMultiClause, only] at several

/-! ## Signatures of several clauses -/

/-- The hits that lie in a procedure. -/
def hitsIn (procedure : String) (hits : List ClauseHit) : List ClauseHit :=
  hits.filter fun h => h.location.scope = .procedure procedure

theorem mem_hitsIn (procedure : String) (hits : List ClauseHit) (h : ClauseHit) :
    h ∈ hitsIn procedure hits ↔ h ∈ hits ∧ h.location.scope = .procedure procedure := by
  rw [hitsIn, List.mem_filter, decide_eq_true_iff]

theorem hitsIn_any_iff {s : Signature α} {hits : List ClauseHit} (gathered : Gathered m s hits)
    (procedure : String) (k : Nat) :
    ((hitsIn procedure hits).any fun h => h.clause.clause = k) ↔
      ∃ p, s.clauses[k]? = some p ∧ ∃ i, HitIn m procedure p i := by
  simp only [List.any_eq_true, decide_eq_true_eq, mem_hitsIn]
  constructor
  · rintro ⟨h, ⟨member, inside⟩, rfl⟩
    obtain ⟨p, placed, found⟩ := (gathered _ _ _).mp ⟨h, member, rfl, rfl, rfl⟩
    obtain ⟨i, listed⟩ := found.nonempty
    exact ⟨p, placed, i, h.location, h.facts, found, inside, listed⟩
  · rintro ⟨p, placed, i, l, is, found, inside, _⟩
    obtain ⟨h, member, same, rfl, rfl⟩ := (gathered k l is).mpr ⟨p, placed, found⟩
    exact ⟨h, ⟨member, inside⟩, same⟩

theorem mem_hitsIn_facts {s : Signature α} {hits : List ClauseHit} (gathered : Gathered m s hits)
    (procedure : String) (i : Nat) :
    i ∈ (hitsIn procedure hits).flatMap (·.facts) ↔ ∃ p ∈ s.clauses, HitIn m procedure p i := by
  simp only [List.mem_flatMap, mem_hitsIn]
  constructor
  · rintro ⟨h, ⟨member, inside⟩, listed⟩
    obtain ⟨p, placed, found⟩ := (gathered _ _ _).mp ⟨h, member, rfl, rfl, rfl⟩
    exact ⟨p, List.mem_of_getElem? placed, h.location, h.facts, found, inside, listed⟩
  · rintro ⟨p, clause, l, is, found, inside, listed⟩
    obtain ⟨k, placed⟩ := List.mem_iff_getElem?.mp clause
    obtain ⟨h, member, _, rfl, rfl⟩ := (gathered k l is).mpr ⟨p, placed, found⟩
    exact ⟨h, ⟨member, inside⟩, listed⟩

theorem hitsIn_all_iff {s : Signature α} {hits : List ClauseHit} (gathered : Gathered m s hits)
    (procedure : String) :
    ((List.range s.clauses.length).all fun k =>
      (hitsIn procedure hits).any fun h => h.clause.clause = k) ↔
        ∀ p ∈ s.clauses, ∃ i, HitIn m procedure p i := by
  simp only [List.all_eq_true, List.mem_range, hitsIn_any_iff gathered]
  constructor
  · intro every p member
    obtain ⟨k, inside, rfl⟩ := List.mem_iff_getElem.mp member
    obtain ⟨q, placed, found⟩ := every k inside
    rw [List.getElem?_eq_getElem inside] at placed
    cases placed
    exact found
  · intro every k inside
    exact ⟨_, List.getElem?_eq_getElem inside, every _ (List.getElem_mem inside)⟩

theorem jointHit?_eq_some_iff {k : Nat} {s : Signature α} {hits : List ClauseHit}
    (listed : signatures[k]? = some s) (several : s.isMultiClause) (gathered : Gathered m s hits)
    (procedure : String) (hit : Hit) :
    jointHit? m k s.clauses.length procedure hits = some hit ↔
      hit.signature = k ∧ hit.location.scope = .procedure procedure ∧
        SignatureHit m signatures hit := by
  have each := hitsIn_all_iff gathered procedure
  have union (i : Nat) : i ∈ ascending ((hitsIn procedure hits).flatMap (·.facts)) ↔
      ∃ p ∈ s.clauses, HitIn m procedure p i := by
    rw [mem_ascending, mem_hitsIn_facts gathered]
  have ascends := ascending_strictlyAscending ((hitsIn procedure hits).flatMap (·.facts))
  have unfolded : jointHit? m k s.clauses.length procedure hits =
      if (List.range s.clauses.length).all fun k =>
          (hitsIn procedure hits).any fun h => h.clause.clause = k
      then some ⟨⟨.procedure procedure, leastAddress m
          (ascending ((hitsIn procedure hits).flatMap (·.facts)))⟩, k,
          ascending ((hitsIn procedure hits).flatMap (·.facts))⟩
      else none := rfl
  rw [unfolded]
  generalize ascending ((hitsIn procedure hits).flatMap (·.facts)) = is at union ascends
  constructor
  · intro found
    split at found
    · rename_i all_
      cases found
      have every := each.mp all_
      refine ⟨rfl, rfl, .joint listed several every ascends union (leastAddress_lowest ?_)⟩
      -- The first clause hits somewhere, and what it hits is a fact of the model.
      obtain ⟨p, clause⟩ : ∃ p, p ∈ s.clauses := by
        refine List.exists_mem_of_ne_nil _ ?_
        intro empty
        simp [Signature.isMultiClause, empty] at several
      obtain ⟨i, l, js, found, inside, member⟩ := every p clause
      exact ⟨i, (union i).mpr ⟨p, clause, l, js, found, inside, member⟩, found.fact_exists i member⟩
    · cases found
  · rintro ⟨rfl, inside, found⟩
    cases found with
    | single listed' only' _ =>
      cases listed.symm.trans listed'
      simp [Signature.isMultiClause, only'] at several
    | @joint _ s' procedure' address is' listed' _ every ascends' union' lowest =>
      cases listed.symm.trans listed'
      cases inside
      rw [if_pos (each.mpr every)]
      have same : is = is' := strictlyAscending_ext ascends ascends' fun i => by rw [union, union']
      subst same
      have address : leastAddress m is = address := by
        refine LowestAddress.unique (leastAddress_lowest ?_) lowest
        obtain ⟨⟨i, member, f, found, _⟩, _⟩ := lowest
        exact ⟨i, member, f, found⟩
      rw [address]

theorem mem_signatureHits_joint {k : Nat} {s : Signature α} {hits : List ClauseHit}
    (listed : signatures[k]? = some s) (several : s.isMultiClause) (gathered : Gathered m s hits)
    (hit : Hit) :
    hit ∈ signatureHits m k s.clauses.length hits ↔
      hit.signature = k ∧ SignatureHit m signatures hit := by
  have notOne : s.clauses.length ≠ 1 := by
    intro one
    simp [Signature.isMultiClause, one] at several
  rw [signatureHits, if_neg notOne, List.mem_filterMap]
  constructor
  · rintro ⟨procedure, _, found⟩
    obtain ⟨own, _, found⟩ := (jointHit?_eq_some_iff listed several gathered _ _).mp found
    exact ⟨own, found⟩
  · rintro ⟨own, found⟩
    cases found with
    | single listed' only' _ =>
      cases own
      cases listed.symm.trans listed'
      simp [only'] at notOne
    | @joint k' s' procedure address is listed' several' every ascends union lowest =>
      have found : SignatureHit m signatures ⟨⟨.procedure procedure, address⟩, k', is⟩ :=
        .joint listed' several' every ascends union lowest
      refine ⟨procedure, ?_, (jointHit?_eq_some_iff listed several gathered _ _).mpr ⟨own, rfl, found⟩⟩
      -- The procedure is among those that some gathered hit names.
      obtain ⟨⟨i, member, _⟩, _⟩ := lowest
      cases own
      cases listed.symm.trans listed'
      obtain ⟨p, clause, l, js, hit, inside, _⟩ := (union i).mp member
      obtain ⟨j, placed⟩ := List.mem_iff_getElem?.mp clause
      obtain ⟨h, gatheredHit, _, rfl, rfl⟩ := (gathered j l js).mpr ⟨p, placed, hit⟩
      rw [mem_ascending, List.mem_filterMap]
      exact ⟨h, gatheredHit, by rw [inside]; rfl⟩

/-! ## All signatures -/

variable (category)

theorem gathered_of_clauseHits (filled : ∀ s ∈ signatures, ∀ p ∈ s.clauses, p.Filled)
    (binaryId : String) (facts : List Fact) {k : Nat} {s : Signature α}
    (listed : signatures[k]? = some s) :
    Gathered (.ofFacts binaryId facts) s
      ((fileUnder (((build category signatures).clauseHits (.ofFacts binaryId facts)).map fun h =>
        (h.clause.signature, h))).getD k []) := by
  intro j l is
  constructor
  · rintro ⟨h, member, rfl, rfl, rfl⟩
    obtain ⟨h', hit, same⟩ := List.mem_map.mp ((mem_fileUnder_getD _ _ _).mp member)
    cases same
    obtain ⟨p, placed, found⟩ := (mem_clauseHits filled binaryId facts h).mp hit
    obtain ⟨s', listed', inside⟩ := (mem_placedClauses _ _).mp placed
    cases listed.symm.trans listed'
    exact ⟨p, inside, found⟩
  · rintro ⟨p, inside, found⟩
    refine ⟨⟨⟨k, j⟩, l, is⟩, (mem_fileUnder_getD _ _ _).mpr (List.mem_map.mpr
      ⟨⟨⟨k, j⟩, l, is⟩, ?_, rfl⟩), rfl, rfl, rfl⟩
    exact (mem_clauseHits filled binaryId facts _).mpr
      ⟨p, (mem_placedClauses _ _).mpr ⟨s, listed, inside⟩, found⟩

theorem mem_hits (filled : ∀ s ∈ signatures, ∀ p ∈ s.clauses, p.Filled)
    (nonempty : ∀ s ∈ signatures, s.clauses ≠ []) (binaryId : String) (facts : List Fact) (hit : Hit) :
    hit ∈ (build category signatures).hits (.ofFacts binaryId facts) ↔
      SignatureHit (.ofFacts binaryId facts) signatures hit := by
  have each {k : Nat} {s : Signature α} (listed : signatures[k]? = some s) :
      hit ∈ signatureHits (.ofFacts binaryId facts) k ((build category signatures).clauseCount k)
        ((fileUnder (((build category signatures).clauseHits (.ofFacts binaryId facts)).map fun h =>
          (h.clause.signature, h))).getD k []) ↔
      hit.signature = k ∧ SignatureHit (.ofFacts binaryId facts) signatures hit := by
    have gathered := gathered_of_clauseHits category filled binaryId facts listed
    rw [clauseCount_build listed]
    by_cases several : s.isMultiClause
    · exact mem_signatureHits_joint listed several gathered hit
    · have one : s.clauses.length = 1 := by
        have positive := List.length_pos_iff.mpr (nonempty s (List.mem_of_getElem? listed))
        simp only [Signature.isMultiClause, decide_eq_true_eq, Nat.not_lt] at several
        omega
      obtain ⟨p, only⟩ := List.length_eq_one_iff.mp one
      rw [one]
      exact mem_signatureHits_single listed only gathered hit
  rw [hits, mem_ascending, List.mem_flatMap]
  constructor
  · rintro ⟨k, inside, member⟩
    have bound : k < signatures.length := by simpa [build] using inside
    exact ((each (List.getElem?_eq_getElem bound)).mp member).2
  · intro found
    obtain ⟨s, listed⟩ := found.listed
    refine ⟨hit.signature, ?_, (each listed).mpr ⟨rfl, found⟩⟩
    have bound := (List.getElem?_eq_some_iff.mp listed).1
    simpa [build] using bound

/-- What is reported of a hit: the identifier of its signature, its place and its facts. -/
def Reports (category : Category) (signatures : List (Signature α)) (hit : Hit) (r : RawMatch) : Prop :=
  ∃ s, signatures[hit.signature]? = some s ∧ r = ⟨s.id, category, hit.location, hit.facts⟩

/-- A scan for validated signatures reports exactly their hits: by place, then by the position of
the signature, then by the facts, and each hit once. -/
theorem scan_reports_exactly [Arithmetic α] (category : Category) (signatures : List (Signature α))
    (validated : ∀ s ∈ signatures, s.Validated) (binaryId : String) (facts : List Fact) :
    ∃ hits : List Hit, StrictlyAscending hits ∧
      (∀ hit, hit ∈ hits ↔ SignatureHit (.ofFacts binaryId facts) signatures hit) ∧
      List.Forall₂ (Reports category signatures) hits
        ((build category signatures).scan (.ofFacts binaryId facts)) := by
  have filled : ∀ s ∈ signatures, ∀ p ∈ s.clauses, p.Filled := fun s member => (validated s member).filled
  have nonempty : ∀ s ∈ signatures, s.clauses ≠ [] := fun s member => (validated s member).clauses_ne_nil
  have exactly := mem_hits category filled nonempty binaryId facts
  refine ⟨(build category signatures).hits (.ofFacts binaryId facts), ascending_strictlyAscending _,
    exactly, ?_⟩
  rw [scan, List.forall₂_map_right_iff, List.forall₂_same]
  intro hit member
  obtain ⟨s, listed⟩ := ((exactly hit).mp member).listed
  refine ⟨s, listed, ?_⟩
  simp [build, listed]

/-- An entry that asks for a symbol and a number in one procedure. -/
def tracingDenied : SignatureEntry Rat :=
  ⟨"tracing-denied", "", 4 / 5,
    [{ symbols := some ["ptrace"] }, { numbers := some ⟨[31], none, none⟩ }]⟩

/-- The signature of that entry. -/
def tracingDeniedSignature : Signature Rat :=
  tracingDenied.toSignature .antiDebug 0 [.names ["ptrace"], .numbers ⟨[31], none⟩]

/-- A procedure in which both are seen. -/
def tracedMain : List Fact :=
  [⟨⟨.procedure "main", 12⟩, .symbol "ptrace" .imported, none⟩,
    ⟨⟨.procedure "main", 16⟩, .number 31 none, none⟩]

theorem tracingDenied_accepted :
    tracingDenied.validate .antiDebug 0 = .ok tracingDeniedSignature := by
  have names : filledTexts ["ptrace"] = ["ptrace"] := filledTexts_singleton (by decide)
  have values : ascending [(31 : UInt64)] = [31] := by simp [ascending, dropRepeats]
  refine SignatureEntry.validate_ok_iff.mpr
    ⟨by decide, by decide +kernel, by simp [tracingDenied], _, .cons ?_ (.cons ?_ .nil), rfl⟩
  · simp [ClauseEntry.validate, ClauseEntry.pattern, ClauseEntry.kindsSet, names]
  · simp [ClauseEntry.validate, ClauseEntry.pattern, ClauseEntry.kindsSet, NumberEntry.range?, values]

theorem scan_reports_tracingDenied :
    (∀ s ∈ [tracingDeniedSignature], s.Validated) ∧
      ∃ hits : List Hit, StrictlyAscending hits ∧
        (∀ hit, hit ∈ hits ↔
          SignatureHit (.ofFacts "sample" tracedMain) [tracingDeniedSignature] hit) ∧
        List.Forall₂ (Reports .antiDebug [tracingDeniedSignature]) hits
          ((build .antiDebug [tracingDeniedSignature]).scan (.ofFacts "sample" tracedMain)) := by
  have validated : ∀ s ∈ [tracingDeniedSignature], s.Validated := by
    intro s member
    rw [List.mem_singleton.mp member]
    exact ⟨tracingDenied, .antiDebug, 0, tracingDenied_accepted⟩
  exact ⟨validated, scan_reports_exactly .antiDebug _ validated _ _⟩

end SignatureIndex

end TechniqueScan
