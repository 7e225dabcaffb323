import TechniqueScan.Proofs.Document.Restored
import TechniqueScan.Proofs.Grouping
import TechniqueScan.Proofs.Order
import TechniqueScan.Run.Codec
import TechniqueScan.Settings.Codec

/-!
Facts, outcomes and settings that documents restore. A scope is written as a bare text, so a procedure
must not have a text for a name that stands for the whole binary; apart from that, whatever is written is
read back, left-out fields and defaults included.
-/

namespace TechniqueScan

open Document

/-! ## Facts -/

theorem restores_word (w : UInt64) : Restores wordValue decodeWord w := by
  have below : w.toNat < 1 <<< 64 := w.toNat_lt
  have restored : Value.asWord (wordValue w).json = .ok w.toNat := restores_natural below
  rw [Restores, decodeWord, restored]
  exact congrArg Decoded.ok (UInt64.ofNat_toNat)

/-- A scope whose text names it. -/
def Scope.Storable (s : Scope) : Prop := ∀ name, s = .procedure name → name ≠ "" ∧ name ≠ wholeText

theorem Scope.restores {s : Scope} (storable : s.Storable) : Restores encode decode s := by
  have named : ofText s.toText = s := by
    cases s with
    | whole => rfl
    | procedure name =>
      obtain ⟨filled, other⟩ := storable name rfl
      simp [toText, ofText, filled, other]
  exact congrArg Decoded.ok named

theorem Location.restores {l : Location} (storable : l.scope.Storable) : Restores encode decode l := by
  refine restores_record (List.Sublist.refl _) (by decide) fun r holds => ?_
  rw [holds.required (Scope.restores storable) rfl, holds.required (restores_word l.address) rfl]
  rfl

theorem SymbolKind.restores (k : SymbolKind) : Restores encode decode k :=
  restores_name (by cases k <;> decide)

theorem ReferenceKind.restores (k : ReferenceKind) : Restores encode decode k :=
  restores_name (by cases k <;> decide)

theorem restores_optionalText (o : Option String) :
    Restores (fun o => .orNull (o.map .text)) (Value.asOptional Value.asText) o :=
  restores_optional (fun s _ => restores_text s) fun _ => rfl

theorem restores_optionalNatural {bound : Nat} {o : Option Nat} (below : ∀ n, o = some n → n < bound) :
    Restores (fun o => .orNull (o.map .natural)) (Value.asOptional (Value.asNatural bound)) o :=
  restores_optional (fun n there => restores_natural (below n there)) fun _ => rfl

theorem restores_optionalCount {o : Option Nat} (below : ∀ n, o = some n → n < UInt64.size) :
    Restores (fun o => .orNull (o.map .natural)) (Value.asOptional Value.asWord) o :=
  restores_optionalNatural below

namespace Observation

/-- What was seen, the index of an operand being a byte. -/
def Storable : Observation → Prop
  | number _ index => ∀ i, index = some i → i < 256
  | _ => True

theorem decode_json (o : Observation) :
    decode o.encode.json = decodeAs o.encodeParts.1 (Value.fields o.encodeParts.2).json := rfl

theorem restores {o : Observation} (storable : o.Storable) : Restores encode decode o := by
  rw [Restores, decode_json]
  cases o with
  | symbol name kind =>
    simp only [encodeParts, decodeAs]
    refine restores_record (List.Sublist.refl _) (by decide) fun r holds => ?_
    rw [holds.required (restores_text name) rfl, holds.required (SymbolKind.restores kind) rfl]
    rfl
  | string value =>
    simp only [encodeParts, decodeAs]
    refine restores_record (List.Sublist.refl _) (by decide) fun r holds => ?_
    rw [holds.required (restores_text value) rfl]
    rfl
  | number value index =>
    simp only [encodeParts, decodeAs]
    refine restores_record (List.Sublist.refl _) (by decide) fun r holds => ?_
    rw [holds.required (restores_word value) rfl, holds.nullable (restores_optionalNatural storable) rfl]
    rfl
  | instruction i =>
    simp only [encodeParts, decodeAs]
    refine restores_record (List.Sublist.refl _) (by decide) fun r holds => ?_
    rw [holds.required (restores_text i.mnemonic) rfl, holds.required (restores_text i.operands) rfl]
    rfl
  | reference x =>
    simp only [encodeParts, decodeAs]
    refine restores_record (List.Sublist.refl _) (by decide) fun r holds => ?_
    rw [holds.required (restores_word x.target) rfl,
      holds.nullable (restores_optionalText x.targetName) rfl,
      holds.required (ReferenceKind.restores x.kind) rfl]
    rfl

end Observation

/-- What is known about a call, the number of arguments being a word of 32 bits. -/
def CallContext.Storable (c : CallContext) : Prop := ∀ n, c.argumentCount = some n → n < UInt32.size

theorem CallContext.restores {c : CallContext} (storable : c.Storable) : Restores encode decode c := by
  have count : Restores (fun o => .orNull (o.map .natural))
      (Value.asOptional (Value.asNatural (1 <<< 32))) c.argumentCount := restores_optionalNatural storable
  refine restores_record (List.Sublist.refl _) (by decide) fun r holds => ?_
  rw [holds.nullable (restores_optionalText c.convention) rfl,
    holds.nullable count rfl]
  rfl

/-- A fact that a document restores. -/
structure Fact.Storable (f : Fact) : Prop where
  scope : f.scope.Storable
  seen : f.seen.Storable
  context : ∀ c, f.context = some c → c.Storable

theorem Fact.restores {f : Fact} (storable : f.Storable) : Restores encode decode f := by
  have context : Restores (fun o => .orNull (o.map CallContext.encode))
      (Value.asOptional CallContext.decode) f.context :=
    restores_optional (fun c there => CallContext.restores (storable.context c there)) fun _ => rfl
  refine restores_record (keys_append (List.Sublist.refl ["location", "kind"]) (whenSome_keys ..) rfl)
    (by decide) fun r holds => ?_
  rw [holds.required (Location.restores storable.scope) rfl,
    holds.required (Observation.restores storable.seen) rfl, holds.optional context ?_]
  · rfl
  · simp [encodeFields, List.lookup_cons]

/-! ## Findings -/

theorem Category.restores (c : Category) : Restores encode decode c :=
  restores_name (ofId?_id c)

theorem restores_texts (ts : List String) : Restores textList (Value.asList Value.asText) ts :=
  restores_list fun s _ => restores_text s

/-- A finding that a document restores. -/
structure Finding.Storable (f : Finding Float) : Prop where
  scope : f.scope.Storable
  confidence : isFinite f.confidence

theorem Finding.restores {f : Finding Float} (storable : f.Storable) : Restores encode decode f := by
  refine restores_record (keys_append
    (keys_append (List.Sublist.refl ["category", "location", "address"]) (whenSome_keys ..) rfl)
    (List.Sublist.refl ["title", "contributing_signatures", "confidence", "evidence"]) rfl)
    (by decide) fun r holds => ?_
  rw [holds.required (Category.restores f.category) rfl, holds.required (Scope.restores storable.scope) rfl,
    holds.required (restores_word f.address) rfl, holds.optional (restores_optionalText f.rule) ?_,
    holds.required (restores_text f.title) ?_, holds.required (restores_texts f.signatures) ?_,
    holds.required (restores_real storable.confidence) ?_,
    holds.required (restores_texts f.evidence) ?_]
  · rfl
  all_goals simp [List.lookup_cons, List.lookup_append]

theorem RuleConflict.restores {c : RuleConflict} (storable : c.scope.Storable) :
    Restores encode decode c := by
  refine restores_record (List.Sublist.refl _) (by decide) fun r holds => ?_
  rw [holds.required (Category.restores c.category) rfl, holds.required (Scope.restores storable) rfl,
    holds.required (restores_text c.signature) rfl, holds.required (restores_text c.kept) rfl,
    holds.required (restores_text c.dropped) rfl]
  rfl

/-! ## Reports -/

theorem RiskLevel.restores (l : RiskLevel) : Restores encode decode l :=
  restores_name (by cases l <;> decide)

/-- The findings of a category that a document restores, their number being a word of 64 bits. -/
structure CategoryReport.Storable (c : CategoryReport Float) : Prop where
  totalFindings : c.totalFindings < UInt64.size
  maxConfidence : isFinite c.maxConfidence
  score : isFinite c.score
  findings : ∀ f ∈ c.findings, f.Storable

theorem CategoryReport.restores {c : CategoryReport Float} (storable : c.Storable) :
    Restores encode decode c := by
  have findings := restores_list fun f listed => Finding.restores (storable.findings f listed)
  refine restores_record (List.Sublist.refl _) (by decide) fun r holds => ?_
  rw [holds.required (Category.restores c.category) rfl, holds.required (restores_text c.label) rfl,
    holds.required (restores_count storable.totalFindings) rfl,
    holds.required (restores_real storable.maxConfidence) rfl,
    holds.required (restores_real storable.score) rfl, holds.required findings rfl]
  rfl

/-- What was found in a procedure as a document restores it, the number of findings being a word of 64
bits. -/
structure ProcedureSummary.Storable (p : ProcedureSummary Float) : Prop where
  scope : p.scope.Storable
  findingCount : p.findingCount < UInt64.size
  maxConfidence : isFinite p.maxConfidence

theorem ProcedureSummary.restores {p : ProcedureSummary Float} (storable : p.Storable) :
    Restores encode decode p := by
  have categories : Restores (fun cs => .items (cs.map Category.encode)) (Value.asList Category.decode)
      p.categories := restores_list fun c _ => Category.restores c
  refine restores_record (List.Sublist.refl _) (by decide) fun r holds => ?_
  rw [holds.required (Scope.restores storable.scope) rfl, holds.required categories rfl,
    holds.required (restores_count storable.findingCount) rfl,
    holds.required (restores_real storable.maxConfidence) rfl]
  rfl

/-- Counts that are words of 64 bits. -/
structure FactCounts.Storable (c : FactCounts) : Prop where
  symbols : c.symbols < UInt64.size
  strings : c.strings < UInt64.size
  constants : c.constants < UInt64.size
  instructions : c.instructions < UInt64.size
  references : c.references < UInt64.size

theorem FactCounts.restores {c : FactCounts} (storable : c.Storable) : Restores encode decode c := by
  refine restores_record (List.Sublist.refl _) (by decide) fun r holds => ?_
  rw [holds.required (restores_count storable.symbols) rfl,
    holds.required (restores_count storable.strings) rfl,
    holds.required (restores_count storable.constants) rfl,
    holds.required (restores_count storable.instructions) rfl,
    holds.required (restores_count storable.references) rfl]
  rfl

/-- Whether entries stand in report order, one for each category at most. -/
def InReportOrder {β : Type} (entries : List (Category × β)) : Prop :=
  (entries.map (·.1)).Sublist Category.all

instance {β : Type} (entries : List (Category × β)) : Decidable (InReportOrder entries) :=
  inferInstanceAs (Decidable (List.Sublist _ _))

theorem latestByCategory_eq {β : Type} {entries : List (Category × β)} (ordered : InReportOrder entries) :
    latestByCategory entries = entries := by
  have once : (entries.map (·.1)).Nodup := Category.all_nodup.sublist ordered
  have once' : (entries.reverse.map (·.1)).Nodup := by
    rw [List.map_reverse]
    exact List.nodup_reverse.mpr once
  refine filterMap_of_looks Category.all_nodup ordered fun c _ b => ?_
  rw [lookup_eq_some_iff once', List.mem_reverse]

theorem restores_byCategory {β : Type} {encode : β → Value} {decode : Value → Decoded β}
    {entries : List (Category × β)} (ordered : InReportOrder entries)
    (each : ∀ e ∈ entries, Restores encode decode e.2) :
    Restores (encodeByCategory encode) (decodeByCategory decode) entries := by
  have read : Value.asTable Category.decode decode (encodeByCategory encode entries).json = .ok entries :=
    restores_table (fun e _ => Category.restores e.1) each
  rw [Restores, decodeByCategory, read]
  exact congrArg Decoded.ok (latestByCategory_eq ordered)

/-- A report that a document restores. -/
structure Report.Storable (r : Report Float) : Prop where
  ordered : InReportOrder r.perCategory
  perCategory : ∀ e ∈ r.perCategory, e.2.Storable
  procedures : ∀ p ∈ r.procedures, p.Storable
  overallRiskScore : isFinite r.overallRiskScore
  facts : r.facts.Storable

theorem Report.restores {r : Report Float} (storable : r.Storable) : Restores encode decode r := by
  have perCategory := restores_byCategory storable.ordered fun e listed =>
    CategoryReport.restores (storable.perCategory e listed)
  have procedures := restores_list fun p listed =>
    ProcedureSummary.restores (storable.procedures p listed)
  refine restores_record (List.Sublist.refl _) (by decide) fun fields holds => ?_
  rw [holds.required (restores_text r.binaryId) rfl, holds.required (restores_text r.title) rfl,
    holds.required perCategory rfl, holds.required procedures rfl,
    holds.required (restores_real storable.overallRiskScore) rfl,
    holds.required (RiskLevel.restores r.riskLevel) rfl,
    holds.withDefault {} (FactCounts.restores storable.facts) rfl]
  rfl

/-! ## Outcomes -/

namespace RunWarning

/-- A warning that a document restores. -/
def Storable : RunWarning → Prop
  | ruleConflict c => c.scope.Storable
  | noSignatures _ => True

theorem decode_ruleConflict (c : RuleConflict) :
    decode (ruleConflict c).encode.json = ruleConflict <$> RuleConflict.decode c.encode.json := rfl

theorem decode_noSignatures (c : Category) :
    decode (noSignatures c).encode.json =
      ((Value.fields [("category", c.encode)]).json.asRecord ["category"]).andThen fun r =>
        noSignatures <$> r.required "category" Category.decode := rfl

theorem restores {w : RunWarning} (storable : w.Storable) : Restores encode decode w := by
  cases w with
  | ruleConflict c =>
    have restored : RuleConflict.decode c.encode.json = .ok c := RuleConflict.restores storable
    rw [Restores, decode_ruleConflict, restored]
    rfl
  | noSignatures c =>
    rw [Restores, decode_noSignatures]
    refine restores_record (List.Sublist.refl _) (by decide) fun r holds => ?_
    rw [holds.required (Category.restores c) rfl]
    rfl

end RunWarning

/-- An outcome that a document restores. -/
structure RunOutcome.Storable (o : RunOutcome Float) : Prop where
  report : o.report.Storable
  warnings : ∀ w ∈ o.warnings, w.Storable

theorem RunOutcome.restores {o : RunOutcome Float} (storable : o.Storable) : Restores encode decode o := by
  have warnings := restores_list fun w listed => RunWarning.restores (storable.warnings w listed)
  refine restores_record (List.Sublist.refl _) (by decide) fun r holds => ?_
  rw [holds.required (Report.restores storable.report) rfl, holds.required warnings rfl]
  rfl

/-! ## Settings -/

/-- Settings of a report that a document restores. -/
structure ReportSettings.Storable (s : ReportSettings Float) : Prop where
  topN : ∀ n, s.topN = some n → n < UInt64.size
  ordered : InReportOrder s.categoryWeights
  categoryWeights : ∀ e ∈ s.categoryWeights, isFinite e.2
  minConfidence : isFinite s.minConfidence

namespace ReportSettings

theorem restores {s : ReportSettings Float} (storable : s.Storable) : Restores encode decode s := by
  have weights : Restores (encodeByCategory .real) (decodeByCategory Value.asReal) s.categoryWeights :=
    restores_byCategory storable.ordered fun e listed => restores_real (storable.categoryWeights e listed)
  have written : encode s = .fields (Value.whenSome "top_n" (s.topN.map .natural) ++
      Value.whenSome "category_weights" (if s.categoryWeights.isEmpty then none
        else some (encodeByCategory .real s.categoryWeights)) ++
      [("min_confidence", .real s.minConfidence)]) := by
    rw [encode]
    cases s.categoryWeights.isEmpty <;> rfl
  rw [Restores, written]
  refine restores_record (keys_append (keys_append (whenSome_keys ..) (whenSome_keys ..) rfl)
    (List.Sublist.refl ["min_confidence"]) rfl) (by decide) fun r holds => ?_
  have kept : r.withDefault "category_weights" [] (decodeByCategory Value.asReal) =
      .ok s.categoryWeights := by
    by_cases empty : s.categoryWeights = []
    · rw [empty]
      refine holds.withDefault_absent [] ?_
      simp [List.lookup_append, empty]
    · refine holds.withDefault [] weights ?_
      simp [List.lookup_append, empty]
  rw [holds.optional (restores_optionalCount storable.topN) ?_, kept,
    holds.withDefault 0.0 (restores_real storable.minConfidence) ?_]
  · rfl
  all_goals simp [List.lookup_cons, List.lookup_append]

end ReportSettings

/-- Settings that a document restores. -/
structure Settings.Storable (s : Settings Float) : Prop where
  report : s.report.Storable
  maxInstructions : ∀ n, s.maxInstructions = some n → n < UInt64.size

theorem Settings.restores {s : Settings Float} (storable : s.Storable) : Restores encode decode s := by
  refine restores_record (keys_append (keys_append (keys_append (keys_append (keys_append
    (whenSome_keys ..) (List.Sublist.refl ["config_version"]) rfl) (whenSome_keys ..) rfl)
    (List.Sublist.refl ["report", "parallel"]) rfl) (whenSome_keys ..) rfl) (whenSome_keys ..) rfl)
    (by decide) fun r holds => ?_
  rw [holds.optional (restores_optionalText s.name) ?_,
    holds.withDefault _ (restores_text s.version) ?_,
    holds.optional (restores_optionalText s.catalogue) ?_,
    holds.withDefault _ (ReportSettings.restores storable.report) ?_,
    holds.withDefault _ (restores_bool s.parallel) ?_,
    holds.optional (restores_optionalText s.provider) ?_,
    holds.optional (restores_optionalCount storable.maxInstructions) ?_]
  · rfl
  all_goals simp [List.lookup_cons, List.lookup_append]

/-! ## Everything that is kept -/

/-- Outcomes, facts and settings are read back as they were written. -/
theorem decode_encode_json :
    (∀ o : RunOutcome Float, o.Storable → RunOutcome.decode o.encode.json = .ok o) ∧
      (∀ f : Fact, f.Storable → Fact.decode f.encode.json = .ok f) ∧
      ∀ s : Settings Float, s.Storable → Settings.decode s.encode.json = .ok s :=
  ⟨fun _ => RunOutcome.restores, fun _ => Fact.restores, fun _ => Settings.restores⟩

/-- An outcome with a section, a finding that a rule ties, one of the whole binary, and warnings of both
kinds. -/
def keptOutcome : RunOutcome Float where
  report :=
    { binaryId := "sample"
      title := "scan"
      perCategory := [(.antiDebug, ⟨.antiDebug, Category.antiDebug.label, 2, 0.75, 0.75,
        [⟨.antiDebug, .procedure "main", 12, some "guarded", "guarded", ["deny", "probe"], 0.75, ["line"]⟩,
          ⟨.antiDebug, .whole, 0, none, "", ["deny"], 0.5, []⟩]⟩)]
      procedures := [⟨.procedure "main", [.antiDebug], 1, 0.75⟩]
      overallRiskScore := 75
      riskLevel := .critical
      facts := { symbols := 2 } }
  warnings := [.noSignatures .c2, .ruleConflict ⟨.antiDebug, .procedure "main", "probe", "guarded", "other"⟩]

def keptFact : Fact := ⟨⟨.procedure "main", 16⟩, .number 31 (some 1), some ⟨none, some 4⟩⟩

def keptSettings : Settings Float where
  name := some "sample"
  report := { topN := some 3, categoryWeights := [(.c2, 2), (.xpc, 0.5)], minConfidence := 0.25 }

theorem Scope.storable_main : (Scope.procedure "main").Storable := by
  rintro name ⟨⟩
  decide

theorem kept_finite : isFinite 0.25 ∧ isFinite 0.5 ∧ isFinite 0.75 ∧ isFinite 2 ∧ isFinite 75 := by
  decide +kernel

theorem keptOutcome_storable : keptOutcome.Storable := by
  obtain ⟨-, half, threeQuarters, -, seventyFive⟩ := kept_finite
  have none : Scope.whole.Storable := nofun
  refine ⟨⟨?_, ?_, ?_, seventyFive, ?_⟩, ?_⟩
  · decide
  · refine List.forall_mem_singleton.mpr ⟨by decide, threeQuarters, threeQuarters, ?_⟩
    rintro f (_ | ⟨_, _ | ⟨_, ⟨⟩⟩⟩)
    · exact ⟨Scope.storable_main, threeQuarters⟩
    · exact ⟨none, half⟩
  · exact List.forall_mem_singleton.mpr ⟨Scope.storable_main, by decide, threeQuarters⟩
  · constructor <;> decide
  · rintro w (_ | ⟨_, _ | ⟨_, ⟨⟩⟩⟩)
    · trivial
    · exact Scope.storable_main

theorem keptFact_storable : keptFact.Storable := by
  refine ⟨Scope.storable_main, ?_, ?_⟩
  · rintro i ⟨⟩
    decide
  · rintro c ⟨⟩ n ⟨⟩
    decide

theorem keptSettings_storable : keptSettings.Storable := by
  obtain ⟨quarter, half, -, two, -⟩ := kept_finite
  refine ⟨⟨?_, by decide, ?_, quarter⟩, nofun⟩
  · rintro n ⟨⟩
    decide
  · rintro e (_ | ⟨_, _ | ⟨_, ⟨⟩⟩⟩)
    · exact two
    · exact half

theorem decode_encode_json_kept :
    (keptOutcome.Storable ∧ RunOutcome.decode keptOutcome.encode.json = .ok keptOutcome) ∧
      (keptFact.Storable ∧ Fact.decode keptFact.encode.json = .ok keptFact) ∧
      keptSettings.Storable ∧ Settings.decode keptSettings.encode.json = .ok keptSettings :=
  ⟨⟨keptOutcome_storable, decode_encode_json.1 _ keptOutcome_storable⟩,
    ⟨keptFact_storable, decode_encode_json.2.1 _ keptFact_storable⟩,
    keptSettings_storable, decode_encode_json.2.2 _ keptSettings_storable⟩

end TechniqueScan
