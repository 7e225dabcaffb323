import TechniqueScan.Proofs.Scan.Growth
import TechniqueScan.Proofs.Scan.Independence

/-!
Scanning is monotone. A match stays a match once further facts are known that are no instructions: of
the same signature, in the same scope, with all facts that it had.
-/

namespace TechniqueScan

variable {α : Type} {binaryId binaryId' : String} {facts facts' : List Fact}

/-- What a signature finds by itself it finds again in a grown model. -/
theorem Signature.Finds.grows {s : Signature α} {x : RawMatch}
    (finds : s.Finds (.ofFacts binaryId facts) x)
    (grows : (FactModel.ofFacts binaryId facts).GrowsTo (.ofFacts binaryId' facts')) :
    ∃ x', s.Finds (.ofFacts binaryId' facts') x' ∧
      KeptHit (.ofFacts binaryId facts) (.ofFacts binaryId' facts') s x.location x'.location
        x.facts x'.facts := by
  obtain ⟨found, named, category⟩ := finds
  obtain ⟨⟨l', k', is'⟩, found', same, kept⟩ := grows.signature_hits found (rfl : [s][0]? = some s)
  -- There is no other position than that of the only signature.
  have first : k' = 0 := same
  subst first
  exact ⟨⟨s.id, s.category, l', is'⟩, ⟨found', rfl, rfl⟩, kept⟩

namespace SignatureIndex

/-- A match of a scan is one of a listed signature. Once further facts are known that are no
instructions, the signature has a match in the same scope which keeps all facts of the earlier one, and a
signature of one clause has the very same match. -/
theorem scan_grows [Arithmetic α] {c : Category} {signatures : List (Signature α)}
    (validated : ∀ s ∈ signatures, s.Validated) (own : ∀ s ∈ signatures, s.category = c)
    (grows : (FactModel.ofFacts binaryId facts).GrowsTo (.ofFacts binaryId' facts')) {x : RawMatch}
    (member : x ∈ (build c signatures).scan (.ofFacts binaryId facts)) :
    (∃ s ∈ signatures, s.Finds (.ofFacts binaryId facts) x) ∧
      ∀ s ∈ signatures, s.Finds (.ofFacts binaryId facts) x →
        ∃ x' ∈ (build c signatures).scan (.ofFacts binaryId' facts'),
          s.Finds (.ofFacts binaryId' facts') x' ∧
            KeptHit (.ofFacts binaryId facts) (.ofFacts binaryId' facts') s x.location x'.location
              x.facts x'.facts := by
  have found := (mem_scan_iff_finds validated own x).mp member
  refine ⟨found, ?_⟩
  intro s listed finds
  obtain ⟨x', finds', kept⟩ := finds.grows grows
  have member' := (mem_scan_iff_finds validated own x').mpr ⟨s, listed, finds'⟩
  exact ⟨x', member', finds', kept⟩

/-- One more import, at a lower address than all else. -/
def earlierTrace : Fact := ⟨⟨.procedure "main", 8⟩, .symbol "_ptrace" .imported, none⟩

theorem tracedMain_growsTo :
    (FactModel.ofFacts "sample" tracedMain).GrowsTo (.ofFacts "sample" (earlierTrace :: tracedMain)) := by
  have noInstruction : ∀ f ∈ (earlierTrace :: tracedMain).map Fact.normal, f.isInstruction = false := by
    decide
  constructor
  · intro f member
    rw [FactModel.mem_ofFacts] at member ⊢
    exact List.mem_cons_of_mem _ member
  · intro f member isInstruction
    rw [FactModel.mem_ofFacts] at member
    rw [noInstruction f member] at isInstruction
    cases isInstruction

theorem tracingDenied_finds : ∃ x, tracingDeniedSignature.Finds (.ofFacts "sample" tracedMain) x := by
  have hits {p : Pattern} {f : Fact} (member : f ∈ tracedMain.map Fact.normal)
      (accepted : p.accepts f) (inside : f.scope = .procedure "main") :
      ∃ i, HitIn (.ofFacts "sample" tracedMain) "main" p i := by
    rw [← FactModel.mem_ofFacts "sample"] at member
    obtain ⟨i, found⟩ := FactModel.mem_facts_iff.mp member
    exact ⟨i, _, _, .fact found accepted, inside, List.mem_singleton_self i⟩
  have each : ∀ p ∈ tracingDeniedSignature.clauses,
      ∃ i, HitIn (.ofFacts "sample" tracedMain) "main" p i := by
    rintro p (_ | ⟨_, _ | ⟨_, ⟨⟩⟩⟩)
    · exact hits (.head _) (by decide) rfl
    · exact hits (.tail _ (.head _)) (by decide) rfl
  obtain ⟨address, is, found, _⟩ :=
    SignatureHit.exists_joint (rfl : [tracingDeniedSignature][0]? = some _) (by decide) each
  exact ⟨⟨_, _, _, is⟩, found, rfl, rfl⟩

theorem scan_grows_traced :
    (∀ s ∈ [tracingDeniedSignature], s.Validated) ∧
      (∀ s ∈ [tracingDeniedSignature], s.category = .antiDebug) ∧
      (FactModel.ofFacts "sample" tracedMain).GrowsTo (.ofFacts "sample" (earlierTrace :: tracedMain)) ∧
      ∃ x ∈ (build .antiDebug [tracingDeniedSignature]).scan (.ofFacts "sample" tracedMain),
        tracingDeniedSignature.Finds (.ofFacts "sample" tracedMain) x ∧
          ∃ x' ∈ (build .antiDebug [tracingDeniedSignature]).scan
              (.ofFacts "sample" (earlierTrace :: tracedMain)),
            tracingDeniedSignature.Finds (.ofFacts "sample" (earlierTrace :: tracedMain)) x' ∧
              KeptHit (.ofFacts "sample" tracedMain) (.ofFacts "sample" (earlierTrace :: tracedMain))
                tracingDeniedSignature x.location x'.location x.facts x'.facts := by
  have validated : ∀ s ∈ [tracingDeniedSignature], s.Validated :=
    List.forall_mem_singleton.mpr ⟨tracingDenied, .antiDebug, 0, tracingDenied_accepted⟩
  have own : ∀ s ∈ [tracingDeniedSignature], s.category = .antiDebug := List.forall_mem_singleton.mpr rfl
  obtain ⟨x, finds⟩ := tracingDenied_finds
  have listed := List.mem_singleton_self tracingDeniedSignature
  have member := (mem_scan_iff_finds validated own x).mpr ⟨_, listed, finds⟩
  have ⟨_, again⟩ := scan_grows validated own tracedMain_growsTo member
  exact ⟨validated, own, tracedMain_growsTo, x, member, finds, again _ listed finds⟩

end SignatureIndex

end TechniqueScan
