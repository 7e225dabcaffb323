import TechniqueScan.Program.Analysis
import TechniqueScan.Proofs.Path

/-!
Where runs are kept. The directory of a run is two names below the directory of all outputs, whatever the
path of the input looks like, and keeping the run changes nothing anywhere else.
-/

namespace TechniqueScan

/-! ## Confined files -/

/-- The same files, of which only some can be changed: other directories are not made, and other files are
not written. -/
@[reducible] def Files.confined {m : Type → Type} [Monad m] (files : Files m) (made written : List String) :
    Files m :=
  { files with
    makeDirectory := fun path =>
      if path ∈ made then files.makeDirectory path else pure (.error (.other "not to be made"))
    write := fun path content =>
      if path ∈ written then files.write path content else pure (.error (.other "not to be written")) }

namespace Files

/-- The same files for work that may fail. -/
@[reducible] def failing {m : Type → Type} [Monad m] (ε : Type) (files : Files m) : Files (ExceptT ε m) :=
  inferInstance

variable {m : Type → Type} [Monad m] {files : Files m} {ε : Type} {made written : List String}

/-! Work that may fail meets no difference at the paths that can be changed. -/

theorem confined_makeDirectory {path : String} (allowed : path ∈ made) :
    ((files.confined made written).failing ε).makeDirectory path = (files.failing ε).makeDirectory path :=
  congrArg ExceptT.lift (if_pos allowed)

theorem confined_write {path : String} (allowed : path ∈ written) (content : ByteArray) :
    ((files.confined made written).failing ε).write path content = (files.failing ε).write path content :=
  congrArg ExceptT.lift (if_pos allowed)

theorem confined_provideDirectory {path : String} (allowed : path ∈ made) :
    @provideDirectory _ _ ((files.confined made written).failing ε) path
      = @provideDirectory _ _ (files.failing ε) path := by
  unfold provideDirectory
  rw [confined_makeDirectory allowed]
  rfl

theorem confined_makeUnder {path : String} {above : List String} (allowed : ∀ p ∈ path :: above, p ∈ made) :
    @makeUnder _ _ ((files.confined made written).failing ε) path above
      = @makeUnder _ _ (files.failing ε) path above := by
  induction above generalizing path with
  | nil => exact confined_provideDirectory (allowed path List.mem_cons_self)
  | cons parent above ih =>
    obtain ⟨here, rest⟩ := List.forall_mem_cons.mp allowed
    simp only [makeUnder, confined_makeDirectory here, ih rest, confined_provideDirectory here]
    rfl

end Files

/-! ## Places -/

open TechniqueScan.Path

theorem Analyzer.isName_name (a : Analyzer) : IsName a.name.toList := by
  cases a with
  | only c => cases c <;> decide
  | all => decide

namespace Workspace.Layout

/-- Where the runs of an analyzer on the input at a path are kept. -/
def runDir (l : Layout) (path : String) (a : Analyzer) : String := l.analyzerDir (outputName path) a.name

/-- The files in which a run is kept. -/
def runFiles (l : Layout) (path : String) (a : Analyzer) : List String :=
  [join (l.runDir path a) "report.json", join (l.runDir path a) "run_metadata.json"]

/-- The same files, where no file can be written but those of a run, and no directory made but that of the
run and the ones above it. -/
@[reducible] def confine {m : Type → Type} [Monad m] (l : Layout) (path : String) (a : Analyzer)
    (files : Files m) : Files m :=
  files.confined (l.runDir path a :: ancestors (l.runDir path a)) (l.runFiles path a)

theorem components_binariesDir (l : Layout) :
    components l.binariesDir
      = components l.root ++ [.name "outputs".toList, .name "binaries".toList] := by
  rw [binariesDir, outputsDir, components_join _ (by decide), components_join _ (by decide),
    List.append_assoc]
  rfl

theorem components_runDir (l : Layout) (path : String) (a : Analyzer) :
    components (l.runDir path a)
      = components l.binariesDir ++ [.name (outputName path).toList, .name a.name.toList] := by
  rw [runDir, analyzerDir, binaryDir, components_join _ a.isName_name,
    components_join _ (isName_outputName path), List.append_assoc]
  rfl

theorem runDir_eq (l : Layout) (path : String) (a : Analyzer) :
    l.runDir path a = l.binariesDir ++ "/" ++ outputName path ++ "/" ++ a.name := by
  rw [runDir, analyzerDir, binaryDir, join_join _ (isName_outputName path) a.isName_name, binariesDir,
    join_join _ (by decide) (isName_outputName path)]

theorem components_of_mem_runFiles {l : Layout} {path : String} {a : Analyzer} {file : String}
    (member : file ∈ l.runFiles path a) :
    ∃ name, IsName name ∧ components file = components (l.runDir path a) ++ [.name name] := by
  rcases List.mem_pair.mp member with rfl | rfl
  · exact ⟨_, by decide, components_join _ (by decide)⟩
  · exact ⟨_, by decide, components_join _ (by decide)⟩

end Workspace.Layout

/-! ## Keeping runs -/

theorem Analysis.keep_confined {m : Type → Type} [Monad m] (files : Files m) (w : Workspace) (f : Finished) :
    @keep m _ (w.layout.confine f.input f.analyzer files) w f = @keep m _ files w f := by
  have report : join (w.layout.runDir f.input f.analyzer) "report.json"
      ∈ w.layout.runFiles f.input f.analyzer := List.mem_cons_self
  have metadata : join (w.layout.runDir f.input f.analyzer) "run_metadata.json"
      ∈ w.layout.runFiles f.input f.analyzer := List.mem_cons_of_mem _ List.mem_cons_self
  unfold keep Files.makeDirectories Files.writeText
  rw [← Workspace.Layout.runDir]
  simp only [Files.confined_makeUnder fun _ member => member, Files.confined_write report,
    Files.confined_write metadata]
  rfl

/-- Runs of an analyzer on the input at a path are kept inside the workspace. -/
structure Workspace.Layout.KeepsInside (l : Layout) (path : String) (a : Analyzer) : Prop where
  /-- The directory of all outputs is below the root. -/
  binaries : components l.binariesDir
    = components l.root ++ [.name "outputs".toList, .name "binaries".toList]
  /-- The directory of a run is two names below that one. -/
  below : components (l.runDir path a)
    = components l.binariesDir ++ [.name (outputName path).toList, .name a.name.toList]
  spelled : l.runDir path a = l.binariesDir ++ "/" ++ outputName path ++ "/" ++ a.name
  named : IsName (outputName path).toList ∧ IsName a.name.toList
  /-- Nothing changes if whatever reaches the files can change nothing else. -/
  confined : ∀ {m : Type → Type} [Monad m] (files : Files m) (w : Workspace) (f : Analysis.Finished),
    w.layout = l → f.input = path → f.analyzer = a →
    @Analysis.keep m _ (l.confine path a files) w f = @Analysis.keep m _ files w f
  inside : ∀ file ∈ l.runFiles path a, ∃ name, IsName name ∧
    components file = components (l.runDir path a) ++ [.name name]
  above : ∀ directory ∈ ancestors (l.runDir path a), components directory <+: components (l.runDir path a)

/-- Runs are kept inside the workspace. -/
theorem Workspace.Layout.keeps_inside (l : Layout) (path : String) (a : Analyzer) :
    l.KeepsInside path a where
  binaries := l.components_binariesDir
  below := l.components_runDir path a
  spelled := l.runDir_eq path a
  named := ⟨isName_outputName path, a.isName_name⟩
  confined := by
    rintro m _ files w f rfl rfl rfl
    exact Analysis.keep_confined files w f
  inside _ member := components_of_mem_runFiles member
  above _ member := components_of_mem_ancestors member

end TechniqueScan
