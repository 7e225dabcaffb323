import TechniqueScan.Proofs.Evidence
import TechniqueScan.Proofs.Run.Justification
import TechniqueScan.Report.Console

/-!
Evidence on the console. Every finding that is listed is printed with its evidence between whole lines.
An entry takes one line if it does not break; an entry that does forges lines of its own.
-/

namespace TechniqueScan

/-! ## Lines -/

namespace Text

/-- The lines that a text takes. -/
def linesOf (s : String) : List String := (s.toList.splitOn '\n').map String.ofList

/-- The lines of a text whose lines are all ended. -/
def lines (s : String) : List String := (linesOf s).dropLast

theorem linesOf_end (s t : String) : linesOf (s ++ "\n" ++ t) = linesOf s ++ linesOf t := by
  have split : (s ++ "\n" ++ t).toList = s.toList ++ '\n' :: t.toList := by simp
  rw [linesOf, split, List.splitOn_append_cons_self, List.map_append, linesOf, linesOf]

theorem linesOf_ne_nil (s : String) : linesOf s ≠ [] := by
  simp [linesOf, List.splitOn, List.splitOnP_ne_nil]

theorem unlines_append (ls ls' : List String) : unlines (ls ++ ls') = unlines ls ++ unlines ls' := by
  rw [unlines, List.map_append, String.join_append, unlines, unlines]

theorem unlines_cons (l : String) (ls : List String) : unlines (l :: ls) = l ++ "\n" ++ unlines ls := by
  rw [unlines, List.map_cons, String.join_cons, unlines]

/-- Reading back what was written as lines. -/
theorem lines_unlines (ls : List String) : lines (unlines ls) = ls.flatMap linesOf := by
  induction ls with
  | nil => decide
  | cons l rest ih =>
    rw [lines, unlines_cons, linesOf_end, List.dropLast_append_of_ne_nil (linesOf_ne_nil _),
      List.flatMap_cons, ← ih, lines]

theorem length_splitOn_newline (cs : List Char) : (cs.splitOn '\n').length = cs.count '\n' + 1 := by
  induction cs with
  | nil => simp [List.splitOn]
  | cons c rest ih =>
    rw [List.splitOn] at ih ⊢
    rw [List.splitOnP_cons_eq_if_modifyHead, List.count_cons]
    split
    · rw [List.length_cons, ih]
    · rw [List.length_modifyHead, ih, Nat.add_zero]

theorem length_linesOf (s : String) : (linesOf s).length = s.toList.count '\n' + 1 := by
  rw [linesOf, List.length_map, length_splitOn_newline]

theorem linesOf_of_unbroken {s : String} (unbroken : '\n' ∉ s.toList) : linesOf s = [s] := by
  have whole : s.toList.splitOn '\n' = [s.toList] := by
    refine List.splitOnP_eq_singleton ?_
    intro c member
    exact beq_eq_false_iff_ne.mpr (ne_of_mem_of_not_mem member unbroken)
  rw [linesOf, whole, List.map_singleton, String.ofList_toList]

theorem length_lines_unlines (ls : List String) :
    (lines (unlines ls)).length = ls.length + (ls.map fun l => l.toList.count '\n').sum := by
  rw [lines_unlines]
  induction ls with
  | nil => rfl
  | cons l rest ih =>
    rw [List.flatMap_cons, List.length_append, ih, length_linesOf, List.map_cons, List.sum_cons,
      List.length_cons]
    omega

/-- As many lines are read back as were written exactly if none of them breaks. -/
theorem length_lines_unlines_iff (ls : List String) :
    (lines (unlines ls)).length = ls.length ↔ ∀ l ∈ ls, '\n' ∉ l.toList := by
  rw [length_lines_unlines, Nat.add_eq_left, List.sum_eq_zero_iff_forall_eq_nat, List.forall_mem_map]
  exact forall₂_congr fun l _ => List.count_eq_zero

theorem lines_unlines_of_unbroken {ls : List String} (unbroken : ∀ l ∈ ls, '\n' ∉ l.toList) :
    lines (unlines ls) = ls := by
  rw [lines_unlines]
  calc ls.flatMap linesOf
    _ = ls.flatMap fun l => [l] := List.flatMap_congr fun l member => linesOf_of_unbroken (unbroken l member)
    _ = ls := List.flatMap_singleton' ls

end Text

/-! ## Evidence as it is printed -/

namespace Console

variable {α : Type}

/-- The lines that show the evidence of a finding. -/
def evidenceLines (f : Finding α) : List String := f.evidence.map ("      " ++ ·)

/-- The evidence of a finding, as it is printed. -/
def evidence (f : Finding α) : String := Text.unlines (evidenceLines f)

theorem infix_flatMap_of_mem {α β : Type} {l : List α} {a : α} (member : a ∈ l) (g : α → List β) :
    g a <:+: l.flatMap g := by
  rw [List.flatMap_def]
  exact List.infix_of_mem_flatten (List.mem_map_of_mem member)

theorem finding_infix_category {c : CategoryReport Float} {f : Finding Float} (inside : f ∈ c.findings) :
    finding f <:+: category c :=
  (infix_flatMap_of_mem inside finding).trans (List.infix_append [_] _ _)

/-- The sections of the categories stand between whole lines. -/
theorem render_categories (o : RunOutcome Float) : ∃ before after, render o =
    Text.unlines (before ++ o.report.perCategory.flatMap (fun e => category e.2) ++ after) := by
  refine ⟨heading o.report ++ [""], counted "Procedures" (o.report.procedures.map procedure)
    ++ counted "Warnings" (o.warnings.map fun w => "  - " ++ w.message), ?_⟩
  rw [← List.append_assoc]
  rfl

/-- The evidence of a finding that is listed stands between whole lines. -/
theorem render_evidence {o : RunOutcome Float} {f : Finding Float} (listed : f ∈ o.report.findings) :
    ∃ before after, render o = Text.unlines before ++ evidence f ++ Text.unlines after := by
  obtain ⟨e, listed, inside⟩ := List.mem_flatMap.mp listed
  have ofFinding : evidenceLines f <:+: finding f := (List.suffix_append _ _).isInfix
  have ofSections := infix_flatMap_of_mem listed fun e => category e.2
  obtain ⟨before, after, shown⟩ := (ofFinding.trans (finding_infix_category inside)).trans ofSections
  obtain ⟨above, below, whole⟩ := render_categories o
  refine ⟨above ++ before, after ++ below, ?_⟩
  rw [whole, ← shown, evidence, ← Text.unlines_append, ← Text.unlines_append]
  simp only [List.append_assoc]

end Console

/-! ## Runs -/

namespace Run

variable {α : Type}

/-- No fact behind a finding brings line ends of its own to its description. -/
def Unbroken (registry : Registry α) (m : FactModel) (f : Finding α) : Prop :=
  ∀ i ∈ factsBehind registry m f, ∀ g, m.fact? i = some g → ∀ t ∈ g.bareTexts, '\n' ∉ t.toList

/-- How many lines the evidence of a finding takes. -/
structure TakesLines (registry : Registry α) (m : FactModel) (f : Finding α) : Prop where
  at_least : f.evidence.length ≤ (Text.lines (Console.evidence f)).length
  one_each_iff : (Text.lines (Console.evidence f)).length = f.evidence.length ↔ Unbroken registry m f
  read_back : Unbroken registry m f → Text.lines (Console.evidence f) = Console.evidenceLines f

variable [Arithmetic α] {registry : Registry α} {m : FactModel} {a : Analyzer} {f : Finding α}

theorem evidenceLines_unbroken_iff (consistent : registry.Consistent) (isActive : f.category ∈ a.categories)
    (left : f ∈ deduplicate (correlated registry m a f.category)) :
    (∀ l ∈ Console.evidenceLines f, '\n' ∉ l.toList) ↔ Unbroken registry m f := by
  have indented (line : String) : '\n' ∈ ("      " ++ line).toList ↔ '\n' ∈ line.toList := by simp
  have shows := mem_merged_evidence isActive left consistent
  simp only [Console.evidenceLines, List.forall_mem_map, indented]
  constructor
  · intro unbroken i behind g found t bare within
    have shown := (shows g.describe).mpr ⟨i, behind, g, found, rfl⟩
    exact unbroken _ shown ((Fact.newline_mem_describe g).mpr ⟨t, bare, within⟩)
  · intro unbroken line shown within
    obtain ⟨i, behind, g, found, rfl⟩ := (shows line).mp shown
    obtain ⟨t, bare, within⟩ := (Fact.newline_mem_describe g).mp within
    exact unbroken i behind g found t bare within

theorem outcome_takesLines (consistent : registry.Consistent) {options : RunOptions α}
    (listed : f ∈ (outcomeOf registry options m a).report.findings) : TakesLines registry m f := by
  obtain ⟨isActive, left⟩ := mem_outcome_findings listed
  have unbroken := evidenceLines_unbroken_iff consistent isActive left
  have entries : (Console.evidenceLines f).length = f.evidence.length := List.length_map _
  refine ⟨?_, ?_, ?_⟩
  · rw [Console.evidence, Text.length_lines_unlines, entries]
    exact Nat.le_add_right ..
  · rw [Console.evidence, ← entries, Text.length_lines_unlines_iff, unbroken]
  · intro clean
    exact Text.lines_unlines_of_unbroken (unbroken.mpr clean)

/-- A description breaks only where a text does that it shows as it is; in a report every entry of evidence
takes one line exactly where no such text breaks, and on the console these lines stand between whole lines. -/
theorem analyze_takesLines (accepted : registry.Accepted) {options : RunOptions α}
    {stopped : Stage → Bool} {outcome : RunOutcome α}
    (ran : analyze registry options stopped m a = .ok outcome) :
    (∀ g : Fact, Text.breaks g.describe = g.bareTexts.flatMap Text.breaks) ∧
      (∀ f ∈ outcome.report.findings, TakesLines registry m f) ∧
      ∀ (o : RunOutcome Float), ∀ f ∈ o.report.findings, ∃ before after,
        Console.render o = Text.unlines before ++ Console.evidence f ++ Text.unlines after := by
  obtain ⟨_, rfl⟩ := analyze_ok_iff.mp ran
  exact ⟨Fact.breaks_describe, fun _ => outcome_takesLines accepted.consistent,
    fun _ _ => Console.render_evidence⟩

/-! ## A convention that forges a line -/

/-- An import that a provider found together with a calling convention. -/
def tracedCall (convention : String) : Fact :=
  ⟨⟨.procedure "main", 12⟩, .symbol "ptrace" .imported, some ⟨some convention, none⟩⟩

def tracedModel (convention : String) : FactModel := .ofFacts "sample" [tracedCall convention]

/-- A convention that goes on like the evidence of another import. -/
def forgedConvention : String := "cdecl\n      0x00000010 [main] import symbol 'sysctl'"

theorem tracedModel_fact {convention : String} {i : Nat} {g : Fact}
    (found : (tracedModel convention).fact? i = some g) : g = tracedCall convention := by
  have member := (FactModel.mem_ofFacts "sample" [tracedCall convention] g).mp (Array.mem_of_getElem? found)
  exact List.mem_singleton.mp member

/-- The import is reported with one entry of evidence. -/
theorem tracedModel_reported (convention : String) :
    ∃ f ∈ (outcomeOf Registry.debuggerRegistry ⟨.default, true⟩ (tracedModel convention) .all).report.findings,
      f.evidence = [(tracedCall convention).describe] := by
  have consistent := Registry.debuggerRegistry_accepted.consistent
  have accounts := outcome_accounts consistent rfl
    (dropsNone_default Registry.debuggerRegistry (tracedModel convention) .all)
  have declared : Registry.debuggerDraft.signatures[0] ∈
      Registry.debuggerRegistry.signaturesFor .antiDebug :=
    List.mem_filter.mpr ⟨List.mem_cons_self, rfl⟩
  have accepted : (Pattern.names ["ptrace"]).accepts (tracedCall convention) := rfl
  obtain ⟨x, scanned, _⟩ : ∃ x ∈ Registry.debuggerRegistry.scan .antiDebug (tracedModel convention),
      x.site = ⟨.procedure "main", .antiDebug⟩ ∧ x.signatureId = Registry.debuggerDraft.signatures[0].id :=
    (consistent.occurs_iff declared rfl (fun _ => Pattern.noConfusion) _).mpr
      ⟨tracedCall convention, List.mem_cons_self, accepted, rfl⟩
  obtain ⟨f, single, _⟩ := accounts.once .antiDebug (Category.mem_all _) x scanned
  have listed := List.mem_singleton_self f
  rw [← single] at listed
  have reported := (List.mem_filter.mp listed).1
  obtain ⟨isActive, left⟩ := mem_outcome_findings reported
  have shows := mem_merged_evidence isActive left consistent
  obtain ⟨i, behind, g, found, _⟩ := (merged_lowest isActive left consistent
    fun y => consistent.scan_grounded).1
  have ascends : StrictlyAscending [(tracedCall convention).describe] := List.pairwise_singleton _ _
  refine ⟨f, reported, strictlyAscending_ext (mergedInto_sumsUp left).ascends ascends ?_⟩
  intro line
  rw [shows, List.mem_singleton]
  constructor
  · rintro ⟨j, _, h, found', rfl⟩
    rw [tracedModel_fact found']
  · rintro rfl
    exact ⟨i, behind, g, found, by rw [tracedModel_fact found]⟩

/-- A calling convention may break a description and forge a line of evidence. -/
theorem forgedConvention_forges :
    '\n' ∈ (tracedCall forgedConvention).describe.toList ∧
      ∃ outcome, analyze Registry.debuggerRegistry ⟨.default, true⟩ (fun _ => false)
          (tracedModel forgedConvention) .all = .ok outcome ∧
        ∃ f ∈ outcome.report.findings, f.evidence.length = 1 ∧
          Text.lines (Console.evidence f) =
            ["      0x0000000c [main] import symbol 'ptrace' cc=cdecl",
              "      0x00000010 [main] import symbol 'sysctl'"] := by
  obtain ⟨f, reported, single⟩ := tracedModel_reported forgedConvention
  refine ⟨by decide +kernel, _, analyze_ok_iff.mpr ⟨fun _ => rfl, rfl⟩, f, reported, ?_, ?_⟩
  · rw [single, List.length_singleton]
  · rw [Console.evidence, Console.evidenceLines, single]
    decide +kernel

theorem analyze_takesLines_traced :
    Registry.debuggerRegistry.Accepted ∧
      analyze Registry.debuggerRegistry ⟨.default, true⟩ (fun _ => false) (tracedModel "cdecl") .all =
        .ok (outcomeOf Registry.debuggerRegistry ⟨.default, true⟩ (tracedModel "cdecl") .all) ∧
      ∃ f ∈ (outcomeOf Registry.debuggerRegistry ⟨.default, true⟩ (tracedModel "cdecl") .all).report.findings,
        TakesLines Registry.debuggerRegistry (tracedModel "cdecl") f ∧
          Unbroken Registry.debuggerRegistry (tracedModel "cdecl") f := by
  have accepted := Registry.debuggerRegistry_accepted
  have ran : analyze Registry.debuggerRegistry ⟨.default, true⟩ (fun _ => false) (tracedModel "cdecl") .all =
      .ok (outcomeOf Registry.debuggerRegistry ⟨.default, true⟩ (tracedModel "cdecl") .all) :=
    analyze_ok_iff.mpr ⟨fun _ => rfl, rfl⟩
  obtain ⟨f, reported, _⟩ := tracedModel_reported "cdecl"
  refine ⟨accepted, ran, f, reported, ?_, ?_⟩
  · exact (analyze_takesLines accepted ran).2.1 f reported
  · intro i _ g found
    rw [tracedModel_fact found]
    decide

end Run

end TechniqueScan
