import SeriesSchema.Directive
import SeriesSchema.Proofs.Commands

/-!
# Settings that pass the check

How the command that checks settings and the command that works with them see the same settings
file.  Both load it in the same way and check the same conditions.  But the work begins with a log
filter, built from the settings unless something else takes their place, and the check builds none.

So of settings that pass the check only the log filter can be refused afterwards
(`run_generate_of_check`): either the reader of log filters takes the text of the log level for
none, and then `generate` says so and does nothing, or a pass is made, and no pass fails for a
reason of settings.  This holds whatever the reader takes for a log filter.  All that it takes to
refuse a log level after the check is a reader that refuses some text, and the usual one does
(`run_check_bogusLevel`).
-/

namespace SeriesSchema

/-! ## 1. What passes -/

/-- Nothing given, nothing changed. -/
@[simp] theorem Overrides.apply_empty (s : Settings) : ({} : Overrides).apply s = s := by
  simp [Overrides.apply]

/-- Without an environment and a flag, the filter is that of the settings. -/
theorem LogFilter.choose_configured (read : FilterReader) (configured : String) :
    LogFilter.choose read none none configured = (read configured).mapError (configured, ·) := by
  unfold LogFilter.choose
  simp only [Option.getD_none]
  cases read configured with
  | error fault => rfl
  | ok filter => rfl

namespace Program

variable {env : Environment} {t : FileTree} {config level : Option String}

/-- **The check passes** exactly the settings that can be loaded and have no fault. -/
theorem code_check_eq_zero :
    (check t config).code = 0 ↔ ∃ s, loadSettings t config = .ok s ∧ s.fault? = none := by
  constructor
  · intro hcode
    rw [check] at hcode
    dsimp only at hcode
    split at hcode
    · cases hcode
    · rename_i s hload
      split at hcode
      · cases hcode
      · rename_i hfault
        exact ⟨s, hload, hfault⟩
  · rintro ⟨s, hload, hfault⟩
    rw [check, hload]
    dsimp only
    rw [hfault]
    rfl

/-! ## 2. What is refused afterwards -/

/-- The preparation of settings that pass the check comes to what their log level comes to. -/
theorem prepare_of_checked {s : Settings} (hload : loadSettings t config = .ok s)
    (hfault : s.fault? = none) (henv : env.logFilter = none) :
    prepare env t config {} none =
      match env.readFilter s.logLevel with
      | .error fault => .error (.badFilter s.logLevel fault)
      | .ok filter => .ok (s, filter) := by
  rw [prepare_of_load hload, Overrides.apply_empty, henv, LogFilter.choose_configured]
  cases env.readFilter s.logLevel with
  | error fault => rfl
  | ok filter => simp only [Except.mapError, hfault]

/-- **After the check only the log level can be refused.**  If a command line that checks a settings
file ends with 0, the settings in it load and have no fault.  A command line that generates with the
same file, no overrides, no flag and no environment for the log then says that their log level is no
filter, and changes nothing, exactly if the reader of log filters refuses the log level; else it
ends as a pass does, and if that fails, then not for a reason of settings. -/
theorem run_generate_of_check {checking generating : List String}
    (henv : env.logFilter = none)
    (hchecking : Request.parse checking = .ok ⟨.check config, level⟩)
    (hgenerating : Request.parse generating = .ok ⟨.generate config {}, none⟩)
    (hcode : (run env t checking).code = 0) :
    ∃ s, loadSettings t config = .ok s ∧ s.fault? = none ∧
      match env.readFilter s.logLevel with
      | .error fault => run env t generating = .failure "" [] (.badFilter s.logLevel fault) t
      | .ok filter => run env t generating = endingOf s filter (pass env t s) ∧
          ∀ failure st, pass env t s = (.error failure, st) → failure.OfPass := by
  rw [run, hchecking] at hcode
  obtain ⟨s, hload, hfault⟩ := code_check_eq_zero.mp hcode
  have hprepare := prepare_of_checked hload hfault henv
  refine ⟨s, hload, hfault, ?_⟩
  rw [run_generate hgenerating]
  split
  · rename_i fault hfilter
    rw [hfilter] at hprepare
    exact generate_of_prepare_error hprepare
  · rename_i filter hfilter
    rw [hfilter] at hprepare
    exact ⟨generate_of_prepare hprepare, fun failure st => ofPass_of_generateSchemas⟩

/-! ## 3. Two settings files -/

namespace OneSetting

/-- An environment without a log filter, in which no program can be started. -/
def environment : Environment :=
  ⟨none, Directive.reader, [], fun _ _ t => (.notStarted .missing, t)⟩

/-- A settings file that sets the log level, and a directory of inputs that is empty. -/
def tree (logLevel : String) : FileTree :=
  ((FileTree.empty []).put ["types"] .directory).put [defaultSettingsFile]
    (.file (.text ("input_dir = \"types\"\nlog_level = \"" ++ logLevel ++ "\"\n")) false)

/-- The settings in it. -/
def settings (logLevel : String) : Settings :=
  { inputDir := "types", logLevel }

end OneSetting

theorem run_generate_of_check_debug :
    (run OneSetting.environment (OneSetting.tree "debug") ["check"]).code = 0 ∧
    ∃ s, loadSettings (OneSetting.tree "debug") none = .ok s ∧ s.fault? = none ∧
      match Directive.reader s.logLevel with
      | .error fault => run OneSetting.environment (OneSetting.tree "debug") ["generate"] =
          .failure "" [] (.badFilter s.logLevel fault) (OneSetting.tree "debug")
      | .ok filter => run OneSetting.environment (OneSetting.tree "debug") ["generate"] =
            endingOf s filter (pass OneSetting.environment (OneSetting.tree "debug") s) ∧
          ∀ failure st,
            pass OneSetting.environment (OneSetting.tree "debug") s = (.error failure, st) →
              failure.OfPass := by
  have hcode : (run OneSetting.environment (OneSetting.tree "debug") ["check"]).code = 0 := by
    decide +kernel
  have hchecking : Request.parse ["check"] = .ok ⟨.check none, none⟩ := by decide +kernel
  have hgenerating : Request.parse ["generate"] = .ok ⟨.generate none {}, none⟩ := by
    decide +kernel
  exact ⟨hcode, run_generate_of_check rfl hchecking hgenerating hcode⟩

/-- **A log level that is no filter passes the check and is refused afterwards**: the check ends
with 0, and `generate` with the message that the log level is invalid. -/
theorem run_check_bogusLevel :
    (run OneSetting.environment (OneSetting.tree "app=bogus") ["check"]).code = 0 ∧
    run OneSetting.environment (OneSetting.tree "app=bogus") ["generate"] =
      .failure "" [] (.badFilter "app=bogus" .badLevel) (OneSetting.tree "app=bogus") := by
  have hload : loadSettings (OneSetting.tree "app=bogus") none =
      .ok (OneSetting.settings "app=bogus") := by decide +kernel
  have hfault : (OneSetting.settings "app=bogus").fault? = none := by decide +kernel
  have hdirectives : Directive.parseAll "app=bogus" = .error .badLevel := by decide +kernel
  have hfilter : OneSetting.environment.readFilter (OneSetting.settings "app=bogus").logLevel =
      .error .badLevel := by
    exact congrArg (Except.map Directive.filterOf) hdirectives
  have hgenerating : Request.parse ["generate"] = .ok ⟨.generate none {}, none⟩ := by
    decide +kernel
  refine ⟨by decide +kernel, ?_⟩
  have hprepare : prepare OneSetting.environment (OneSetting.tree "app=bogus") none {} none = _ :=
    prepare_of_checked hload hfault rfl
  rw [hfilter] at hprepare
  rw [run_generate hgenerating]
  exact generate_of_prepare_error hprepare

end Program

end SeriesSchema
