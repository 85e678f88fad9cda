import SeriesSchema.Program
import SeriesSchema.Proofs.Steps

/-!
# Commands

What the commands of the program come to, as equations.  The commands that do work first settle
their settings and their log filter (`Program.prepare`), and that has three causes of failure in a
fixed order: the settings file, the log filter, the check of the settings (`prepare_of_load`).  What
`generate` does after it is a pass over the inputs, and its ending is read off the pass
(`generate_of_prepare`).

The failures of a pass are never those of settings (`Failure.OfPass`).
-/

namespace SeriesSchema

/-! ## 1. Preparation -/

namespace Program

variable {env : Environment} {t : FileTree} {config level : Option String} {overrides : Overrides}

theorem prepare_of_load_error {r : Report} (h : loadSettings t config = .error r) :
    prepare env t config overrides level = .error r := by
  rw [prepare, h]

/-- **What preparation comes to** once the settings are loaded: the log filter is built first, and
then the settings are checked. -/
theorem prepare_of_load {loaded : Settings} (h : loadSettings t config = .ok loaded) :
    prepare env t config overrides level =
      match LogFilter.choose env.readFilter env.logFilter level
        (overrides.apply loaded).logLevel with
      | .error fault => .error (.badFilter fault.1 fault.2)
      | .ok filter =>
        match (overrides.apply loaded).fault? with
        | some fault => .error (.during "Invalid configuration" (.settings fault))
        | none => .ok (overrides.apply loaded, filter) := by
  rw [prepare, h]
  dsimp only
  cases LogFilter.choose env.readFilter env.logFilter level (overrides.apply loaded).logLevel with
  | error fault => rfl
  | ok filter => rfl

/-- The settings that preparation gives are those that were loaded, with the overrides. -/
theorem prepare_eq_ok {s : Settings} {filter : LogFilter}
    (h : prepare env t config overrides level = .ok (s, filter)) :
    ∃ loaded, loadSettings t config = .ok loaded ∧ s = overrides.apply loaded ∧
      LogFilter.choose env.readFilter env.logFilter level s.logLevel = .ok filter ∧
        s.fault? = none := by
  cases hload : loadSettings t config with
  | error r =>
    rw [prepare_of_load_error hload] at h
    cases h
  | ok loaded =>
    rw [prepare_of_load hload] at h
    split at h
    · cases h
    · rename_i filter' hfilter
      split at h
      · cases h
      · rename_i hfault
        obtain ⟨rfl, rfl⟩ := Prod.mk.inj (Except.ok.inj h)
        exact ⟨loaded, rfl, rfl, hfilter, hfault⟩

/-! ## 2. Generating -/

/-- The pass that is made once the settings are known. -/
def pass (env : Environment) (t : FileTree) (s : Settings) :
    Except Failure (List Generated) × State :=
  generateSchemas s (Compiler.ofExecutable env.behaviour env.searchPath s.compiler.executable)
    (.initial t)

/-- The ending of a pass: what it printed, and the tree that it left. -/
def endingOf (s : Settings) (filter : LogFilter)
    (pass : Except Failure (List Generated) × State) : Ending :=
  let opening := "Generating schemas from: " ++ s.inputDir ++ "\n"
  match pass.1 with
  | .error failure =>
    .failure opening (logLines filter pass.2.events) (.during "Schema generation failed" failure)
      pass.2.tree
  | .ok generated =>
    .success (opening ++ String.join (generated.map fun g => summary g ++ "\n") ++
        ("\nGenerated " ++ toString generated.length ++ " schema(s)\n"))
      (logLines filter pass.2.events) pass.2.tree

@[simp] theorem tree_endingOf (s : Settings) (filter : LogFilter)
    (pass : Except Failure (List Generated) × State) :
    (endingOf s filter pass).tree = pass.2.tree := by
  unfold endingOf
  split
  · rfl
  · rfl

theorem run_generate {arguments : List String}
    (h : Request.parse arguments = .ok ⟨.generate config overrides, level⟩) :
    run env t arguments = generate env t config overrides level := by
  rw [run, h]
  rfl

theorem generate_of_prepare_error {r : Report}
    (h : prepare env t config overrides level = .error r) :
    generate env t config overrides level = .failure "" [] r t := by
  rw [generate, h]

/-- **Once it is prepared, `generate` makes a pass**, and ends as the pass does. -/
theorem generate_of_prepare {s : Settings} {filter : LogFilter}
    (h : prepare env t config overrides level = .ok (s, filter)) :
    generate env t config overrides level = endingOf s filter (pass env t s) := by
  rw [generate, h]
  rcases hpass : pass env t s with ⟨failure | gs, st⟩
  · rw [pass] at hpass
    simp only [hpass, endingOf]
  · rw [pass] at hpass
    simp only [hpass, endingOf]

end Program

/-! ## 3. The failures of a pass -/

/-- The failures that a pass can have: its inputs cannot be listed, or a file cannot be read, has no
type, cannot be written, or is not compiled. -/
def Failure.OfPass : Failure → Prop
  | .settings _ => False
  | .unlistable .. | .unreadable .. | .noDeclaration _ | .unwritable .. | .compilerFailed ..
  | .compilerUnavailable .. => True

variable {s : Settings} {c : Compiler} {st st' : State} {failure : Failure}

/-- A file fails with a failure of reading, writing or compiling. -/
theorem ofPass_of_generateFile {path : Path}
    (h : generateFile s c path st = (.error failure, st')) : failure.OfPass := by
  rcases generateFile_cases h with ⟨_, hrender, hfailure, -⟩ | ⟨_, _, _, -, hwrite, hfailure, -⟩ |
    ⟨_, _, verdict, -, -, hcompile, hresult⟩
  · obtain rfl := Except.error.inj hfailure
    rcases renderFile_eq_error hrender with ⟨reason, rfl⟩ | rfl
    · trivial
    · trivial
  · obtain rfl := Except.error.inj hfailure
    rcases writeSchema_cases hwrite with ⟨path, reason, hresult, -⟩ | ⟨hresult, -⟩
    · obtain rfl := Except.error.inj hresult
      trivial
    · cases hresult
  · cases verdict with
    | ok outcome => cases hresult
    | error failure' =>
      obtain rfl := Except.error.inj hresult
      rcases (compile_eq_error hcompile).2 with ⟨status, rfl⟩ | ⟨reason, rfl⟩
      · trivial
      · trivial

/-- **No pass fails for a reason of settings.** -/
theorem ofPass_of_generateSchemas (h : generateSchemas s c st = (.error failure, st')) :
    failure.OfPass := by
  rw [generateSchemas] at h
  split at h
  · rename_i failure' hdiscover
    obtain ⟨hfailure, -⟩ := Prod.mk.inj h
    obtain rfl := Except.error.inj hfailure
    rw [discover] at hdiscover
    split at hdiscover
    · cases hdiscover
    · obtain rfl := Except.error.inj hdiscover
      trivial
  · obtain ⟨_, _, _, _, _, -, -, hfile⟩ := generateFiles_eq_error.mp h
    exact ofPass_of_generateFile hfile

end SeriesSchema
