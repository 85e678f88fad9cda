import SeriesSchema.Proofs.SchemaFiles

/-!
# Policies

What the policy for failures of the compiler can change, and what disabling the compiler can.  The
passes to compare read the same settings but for those of the compiler, and these are asked for only
when a schema has been written.  So the passes go *in step*: file by file they come to the same tree
(`generateFiles_inStep`).

* Under `ignore` and `warn` they also come to the same calls and the same results.
* Without a compiler they come to the same results but for the outcomes, which are all `skipped`.
* Under `fail` a pass goes in step with the one under `ignore` up to the first answer that is no
  success, and ends there (`generateFiles_upToFailure`).

1. answers that are a success, and the failures that the others stand for;
2. settings that differ in the compiler;
3. passes in step;
4. the policies that go on, and no compiler;
5. the policy that ends the pass with the first failure;
6. the four passes.
-/

namespace SeriesSchema

open FileTree

variable {s : Settings} {c : Compiler}

/-! ## 1. Answers -/

namespace Answer

/-- Whether an answer is that of a compiler that ended with success. -/
def isSuccess : Answer → Bool
  | ended status => status.isSuccess
  | notStarted _ => false

/-- The outcome of an answer that does not end the pass. -/
def outcome : Answer → Outcome
  | ended status => if status.isSuccess then .succeeded else .failed status
  | notStarted reason => .unavailable reason

/-- The failure of an answer that ends the pass. -/
def failure (program schema : String) : Answer → Failure
  | ended status => .compilerFailed schema status
  | notStarted reason => .compilerUnavailable program reason

end Answer

/-- **The verdict on an answer.**  Only the policy `fail` ends the pass, and not with a success. -/
theorem verdict_judge (s : Settings) (program schema : String) (answer : Answer) :
    (judge s program schema answer).1 =
      if answer.isSuccess = true ∨ s.compiler.onFailure ≠ .fail then .ok answer.outcome
      else .error (answer.failure program schema) := by
  cases answer with
  | ended status =>
    simp only [judge, Answer.isSuccess, Answer.outcome]
    by_cases hsuccess : status.isSuccess = true
    · simp [hsuccess]
    · cases hpolicy : s.compiler.onFailure <;> simp [hsuccess, Answer.failure]
  | notStarted reason =>
    simp only [judge, Answer.isSuccess, Answer.outcome]
    cases hpolicy : s.compiler.onFailure <;> simp [Answer.failure]

namespace Compiler

/-- Whether a call after some earlier ones is answered by a success. -/
def Succeeds (c : Compiler) (earlier : List Call) (call : Call) : Prop :=
  (c.start earlier call).1.isSuccess = true

/-- Whether all of some calls, made one after the other, are answered by a success. -/
def AllSucceed (c : Compiler) (calls : List Call) : Prop :=
  ∀ earlier call, earlier ++ [call] <+: calls → c.Succeeds earlier call

theorem allSucceed_nil (c : Compiler) : c.AllSucceed [] := by
  intro earlier call h
  simp at h

theorem AllSucceed.concat {calls : List Call} {call : Call} (h : c.AllSucceed calls)
    (hcall : c.Succeeds calls call) : c.AllSucceed (calls ++ [call]) := by
  intro earlier other hprefix
  rcases List.prefix_concat_iff.mp hprefix with heq | hprefix
  · obtain ⟨rfl, hlast⟩ := List.append_inj' heq rfl
    obtain rfl : other = call := by simpa using hlast
    exact hcall
  · exact h earlier other hprefix

end Compiler

/-! ## 2. Settings that differ in the compiler -/

namespace Settings

/-- The settings with other ones for the compiler. -/
def withCompiler (s : Settings) (k : CompilerSettings) : Settings :=
  { s with compiler := k }

/-- The settings with another policy. -/
def withPolicy (s : Settings) (policy : Policy) : Settings :=
  s.withCompiler { s.compiler with onFailure := policy }

/-- The settings with compilation disabled. -/
def withoutCompiler (s : Settings) : Settings :=
  s.withCompiler { s.compiler with enabled := false }

end Settings

/-- Before the compiler is called its settings are not asked for. -/
theorem publish_withCompiler (s : Settings) (k : CompilerSettings) :
    publish (s.withCompiler k) = publish s :=
  rfl

theorem discover_withCompiler (s : Settings) (k : CompilerSettings) :
    discover (s.withCompiler k) = discover s :=
  rfl

/-! ## 3. Passes in step -/

/-- Two passes have come to the same tree, and to calls that are related in some way. -/
structure State.InStep (related : List Call → List Call → Prop) (st st' : State) : Prop where
  tree : st'.tree = st.tree
  calls : related st.calls st'.calls

/-- The compiler, called in step under two settings, keeps the passes in step; the outcome under the
second settings is `change` of the one under the first. -/
def CompilesInStep (s s' : Settings) (c : Compiler) (related : List Call → List Call → Prop)
    (change : Outcome → Outcome) : Prop :=
  ∀ schema st st', State.InStep related st st' →
    (compile s' c schema st').1 = (compile s c schema st).1.map change ∧
      State.InStep related (compile s c schema st).2 (compile s' c schema st').2

/-- What became of a file, with another outcome. -/
def Generated.mapOutcome (change : Outcome → Outcome) (g : Generated) : Generated :=
  { g with outcome := change g.outcome }

section InStep

variable {k k' : CompilerSettings} {related : List Call → List Call → Prop}
  {change : Outcome → Outcome} {st st' : State}

theorem generateFile_inStep
    (hcompile : CompilesInStep (s.withCompiler k) (s.withCompiler k') c related change)
    (h : State.InStep related st st') (path : Path) :
    (generateFile (s.withCompiler k') c path st').1 =
        (generateFile (s.withCompiler k) c path st).1.map (Generated.mapOutcome change) ∧
      State.InStep related (generateFile (s.withCompiler k) c path st).2
        (generateFile (s.withCompiler k') c path st').2 := by
  rw [generateFile_eq, generateFile_eq, publish_withCompiler, publish_withCompiler, h.tree]
  rcases publish s path st.tree with ⟨failure | doc, tree⟩
  · exact ⟨rfl, rfl, h.calls⟩
  · have hwritten : State.InStep related (st.written (s.withCompiler k) path doc tree)
        (st'.written (s.withCompiler k') path doc tree) := ⟨rfl, h.calls⟩
    obtain ⟨hverdict, hstate⟩ := hcompile ((s.withCompiler k).schemaPath doc) _ _ hwritten
    refine ⟨?_, hstate⟩
    have hpath : (s.withCompiler k').schemaPath doc = (s.withCompiler k).schemaPath doc := rfl
    simp only [hpath, hverdict]
    cases (compile (s.withCompiler k) c ((s.withCompiler k).schemaPath doc)
      (st.written (s.withCompiler k) path doc tree)).1 with
    | error failure => rfl
    | ok outcome => rfl

/-- **Passes over some files go in step** if the calls of the compiler do. -/
theorem generateFiles_inStep
    (hcompile : CompilesInStep (s.withCompiler k) (s.withCompiler k') c related change)
    (h : State.InStep related st st') (paths : List Path) :
    (generateFiles (s.withCompiler k') c paths st').1 =
        (generateFiles (s.withCompiler k) c paths st).1.map
          (List.map (Generated.mapOutcome change)) ∧
      State.InStep related (generateFiles (s.withCompiler k) c paths st).2
        (generateFiles (s.withCompiler k') c paths st').2 := by
  induction paths generalizing st st' with
  | nil => exact ⟨rfl, h⟩
  | cons path paths ih =>
    obtain ⟨hfile, hnext⟩ := generateFile_inStep hcompile h path
    rw [generateFiles_cons, generateFiles_cons, hfile]
    cases (generateFile (s.withCompiler k) c path st).1 with
    | error failure => exact ⟨rfl, hnext⟩
    | ok g =>
      obtain ⟨hfiles, hlast⟩ := ih hnext
      refine ⟨?_, hlast⟩
      simp only [Except.map, hfiles]
      cases (generateFiles (s.withCompiler k) c paths
        (generateFile (s.withCompiler k) c path st).2).1 with
      | error failure => rfl
      | ok more => rfl

/-- **Passes go in step** if the calls of the compiler do. -/
theorem generateSchemas_inStep
    (hcompile : CompilesInStep (s.withCompiler k) (s.withCompiler k') c related change)
    (h : State.InStep related st st') :
    (generateSchemas (s.withCompiler k') c st').1 =
        (generateSchemas (s.withCompiler k) c st).1.map (List.map (Generated.mapOutcome change)) ∧
      State.InStep related (generateSchemas (s.withCompiler k) c st).2
        (generateSchemas (s.withCompiler k') c st').2 := by
  rw [generateSchemas, generateSchemas, discover_withCompiler, discover_withCompiler, h.tree]
  cases discover s st.tree with
  | error failure => exact ⟨rfl, h⟩
  | ok paths =>
    have hopening : State.InStep related
        (st.tell [.listed s.inputDir paths.length s.extractor.name])
        (st'.tell [.listed s.inputDir paths.length s.extractor.name]) := ⟨h.tree, h.calls⟩
    exact generateFiles_inStep hcompile hopening paths

end InStep

/-! ## 4. The policies that go on, and no compiler -/

/-- **A call under a policy**: its answer and what it leaves depend on the policy only in the
verdict. -/
theorem compile_withPolicy (h : s.compiler.enabled = true) (policy : Policy) (schema : String)
    (st : State) :
    (compile (s.withPolicy policy) c schema st).1 =
        (if (c.start st.calls (s.callFor schema st.tree)).1.isSuccess = true ∨ policy ≠ .fail then
          .ok (c.start st.calls (s.callFor schema st.tree)).1.outcome
        else
          .error ((c.start st.calls (s.callFor schema st.tree)).1.failure c.program schema)) ∧
      (compile (s.withPolicy policy) c schema st).2.tree =
        (c.start st.calls (s.callFor schema st.tree)).2 ∧
      (compile (s.withPolicy policy) c schema st).2.calls =
        st.calls ++ [s.callFor schema st.tree] := by
  have henabled : (s.withPolicy policy).compiler.enabled = true := h
  rw [compile_of_enabled henabled]
  exact ⟨verdict_judge _ _ _ _, rfl, rfl⟩

theorem compile_withPolicy_of_not_enabled (h : s.compiler.enabled = false) (policy : Policy)
    (schema : String) (st : State) :
    compile (s.withPolicy policy) c schema st = (.ok .skipped, st) := by
  have hdisabled : (s.withPolicy policy).compiler.enabled = false := h
  exact compile_of_not_enabled hdisabled schema st

/-- The policies `ignore` and `warn` take every answer alike. -/
theorem compilesInStep_warn (s : Settings) (c : Compiler) :
    CompilesInStep (s.withPolicy .ignore) (s.withPolicy .warn) c (fun a b => b = a) id := by
  rintro schema st st' ⟨htree, hcalls⟩
  cases henabled : s.compiler.enabled with
  | false =>
    rw [compile_withPolicy_of_not_enabled henabled, compile_withPolicy_of_not_enabled henabled]
    exact ⟨rfl, htree, hcalls⟩
  | true =>
    obtain ⟨hverdict, htree', hcalls'⟩ :=
      compile_withPolicy (c := c) henabled .ignore schema st
    obtain ⟨hverdict', htree'', hcalls''⟩ :=
      compile_withPolicy (c := c) henabled .warn schema st'
    rw [htree, hcalls] at hverdict' htree'' hcalls''
    refine ⟨?_, htree''.trans htree'.symm, hcalls''.trans hcalls'.symm⟩
    rw [hverdict, hverdict', if_pos (Or.inr nofun), if_pos (Or.inr nofun)]
    rfl

/-- Without the compiler every outcome is `skipped`; the tree is the same, since the compiler leaves
it alone. -/
theorem compilesInStep_disabled (hc : c.LeavesTree) (s : Settings) :
    CompilesInStep (s.withPolicy .ignore) s.withoutCompiler c (fun _ b => b = [])
      fun _ => .skipped := by
  rintro schema st st' ⟨htree, hcalls⟩
  have hdisabled : s.withoutCompiler.compiler.enabled = false := rfl
  rw [compile_of_not_enabled hdisabled]
  cases henabled : s.compiler.enabled with
  | false =>
    rw [compile_withPolicy_of_not_enabled henabled]
    exact ⟨rfl, htree, hcalls⟩
  | true =>
    obtain ⟨hverdict, htree', -⟩ := compile_withPolicy (c := c) henabled .ignore schema st
    refine ⟨?_, ?_, hcalls⟩
    · rw [hverdict, if_pos (Or.inr nofun)]
      rfl
    · rw [htree', hc]
      exact htree

/-! ## 5. The policy that ends the pass -/

/-- A pass has ended with the first of some calls that is answered by no success: it has made the
calls up to this one, it has come to the tree on which this one was made, and its failure is the
answer. -/
def EndsAtFailure (s : Settings) (c : Compiler) (calls : List Call) (failure : Failure)
    (st : State) : Prop :=
  ∃ earlier call schema, earlier ++ [call] <+: calls ∧ c.AllSucceed earlier ∧
    ¬ c.Succeeds earlier call ∧ call = s.callFor schema call.tree ∧
    failure = (c.start earlier call).1.failure c.program schema ∧
    st.calls = earlier ++ [call] ∧ st.tree = call.tree

theorem EndsAtFailure.mono {calls more : List Call} {failure : Failure} {st : State}
    (h : EndsAtFailure s c calls failure st) (hmore : calls <+: more) :
    EndsAtFailure s c more failure st := by
  obtain ⟨earlier, call, schema, hprefix, hrest⟩ := h
  exact ⟨earlier, call, schema, hprefix.trans hmore, hrest⟩

/-- A pass that has ended so was not answered by successes only. -/
theorem EndsAtFailure.not_allSucceed {calls : List Call} {failure : Failure} {st : State}
    (h : EndsAtFailure s c calls failure st) : ¬ c.AllSucceed calls := by
  obtain ⟨earlier, call, schema, hprefix, -, hcall, -⟩ := h
  exact fun hall => hcall (hall earlier call hprefix)

/-- What a pass that goes on after every answer has come to, and one that ends with the first
failure: the same if there was no failure, and else the second has ended with the first one. -/
inductive UpToFailure (s : Settings) (c : Compiler) {α : Type}
    (ignoring failing : Except Failure α × State) : Prop
  | inStep (succeed : c.AllSucceed ignoring.2.calls) (result : failing.1 = ignoring.1)
      (state : State.InStep (fun a b => b = a) ignoring.2 failing.2)
  | ended (failure : Failure) (result : failing.1 = .error failure)
      (ends : EndsAtFailure s c ignoring.2.calls failure failing.2)

variable {st st' : State}

theorem compile_upToFailure (hc : c.LeavesTree) (h : State.InStep (fun a b => b = a) st st')
    (hall : c.AllSucceed st.calls) (schema : String) :
    UpToFailure s c (compile (s.withPolicy .ignore) c schema st)
      (compile (s.withPolicy .fail) c schema st') := by
  obtain ⟨htree, hcalls⟩ := h
  cases henabled : s.compiler.enabled with
  | false =>
    rw [compile_withPolicy_of_not_enabled henabled, compile_withPolicy_of_not_enabled henabled]
    exact .inStep hall rfl ⟨htree, hcalls⟩
  | true =>
    obtain ⟨hverdict, htree₁, hcalls₁⟩ := compile_withPolicy (c := c) henabled .ignore schema st
    obtain ⟨hverdict', htree₂, hcalls₂⟩ := compile_withPolicy (c := c) henabled .fail schema st'
    rw [htree, hcalls] at hverdict' htree₂ hcalls₂
    by_cases hsuccess : c.Succeeds st.calls (s.callFor schema st.tree)
    · refine .inStep ?_ ?_ ⟨htree₂.trans htree₁.symm, hcalls₂.trans hcalls₁.symm⟩
      · rw [hcalls₁]
        exact hall.concat hsuccess
      · have hyes : (c.start st.calls (s.callFor schema st.tree)).1.isSuccess = true := hsuccess
        rw [hverdict, hverdict', if_pos (Or.inl hyes), if_pos (Or.inl hyes)]
    · have hends : ¬ ((c.start st.calls (s.callFor schema st.tree)).1.isSuccess = true ∨
          Policy.fail ≠ .fail) := by
        rintro (hyes | hne)
        · exact hsuccess hyes
        · exact hne rfl
      rw [if_neg hends] at hverdict'
      refine .ended _ hverdict' ⟨st.calls, s.callFor schema st.tree, schema, ?_, hall, hsuccess,
        rfl, rfl, hcalls₂, ?_⟩
      · exact hcalls₁ ▸ List.prefix_rfl
      · rw [htree₂, hc]

theorem generateFile_upToFailure (hc : c.LeavesTree) (h : State.InStep (fun a b => b = a) st st')
    (hall : c.AllSucceed st.calls) (path : Path) :
    UpToFailure s c (generateFile (s.withPolicy .ignore) c path st)
      (generateFile (s.withPolicy .fail) c path st') := by
  have hpublish : ∀ policy, publish (s.withPolicy policy) = publish s := fun _ => rfl
  rw [generateFile_eq, generateFile_eq, hpublish, hpublish, h.tree]
  rcases publish s path st.tree with ⟨failure | doc, tree⟩
  · exact .inStep hall rfl ⟨rfl, h.calls⟩
  · have hwritten : State.InStep (fun a b => b = a)
        (st.written (s.withPolicy .ignore) path doc tree)
        (st'.written (s.withPolicy .fail) path doc tree) := ⟨rfl, h.calls⟩
    have hpath : ∀ policy, (s.withPolicy policy).schemaPath doc = s.schemaPath doc := fun _ => rfl
    simp only [hpath]
    cases compile_upToFailure (s := s) hc hwritten hall (s.schemaPath doc) with
    | inStep succeed result state => exact .inStep succeed (by simp only [result]) state
    | ended failure result ends => exact .ended failure (by simp only [result]; rfl) ends

/-- **A pass that ends with the first failure** goes in step up to there.  The induction is on the
files; what the other pass does after the failure only adds to its calls. -/
theorem generateFiles_upToFailure (hc : c.LeavesTree)
    (h : State.InStep (fun a b => b = a) st st') (hall : c.AllSucceed st.calls)
    (paths : List Path) :
    UpToFailure s c (generateFiles (s.withPolicy .ignore) c paths st)
      (generateFiles (s.withPolicy .fail) c paths st') := by
  induction paths generalizing st st' with
  | nil => exact .inStep hall rfl h
  | cons path paths ih =>
    rw [generateFiles_cons, generateFiles_cons]
    cases generateFile_upToFailure (s := s) hc h hall path with
    | inStep succeed result state =>
      rw [result]
      cases (generateFile (s.withPolicy .ignore) c path st).1 with
      | error failure => exact .inStep succeed rfl state
      | ok g =>
        cases ih state succeed with
        | inStep succeed result state => exact .inStep succeed (by simp only [result]) state
        | ended failure result ends => exact .ended failure (by simp only [result]; rfl) ends
    | ended failure result ends =>
      rw [result]
      cases (generateFile (s.withPolicy .ignore) c path st).1 with
      | error failure' => exact .ended failure rfl ends
      | ok g =>
        have hmore := calls_prefix_generateFiles (s.withPolicy .ignore) c paths
        exact .ended failure rfl (ends.mono (hmore _))

theorem generateSchemas_upToFailure (hc : c.LeavesTree)
    (h : State.InStep (fun a b => b = a) st st') (hall : c.AllSucceed st.calls) :
    UpToFailure s c (generateSchemas (s.withPolicy .ignore) c st)
      (generateSchemas (s.withPolicy .fail) c st') := by
  have hdiscover : ∀ policy, discover (s.withPolicy policy) = discover s := fun _ => rfl
  rw [generateSchemas, generateSchemas, hdiscover, hdiscover, h.tree]
  cases discover s st.tree with
  | error failure => exact .inStep hall rfl h
  | ok paths =>
    have hopening : State.InStep (fun a b => b = a)
        (st.tell [.listed s.inputDir paths.length s.extractor.name])
        (st'.tell [.listed s.inputDir paths.length s.extractor.name]) := ⟨h.tree, h.calls⟩
    exact generateFiles_upToFailure hc hopening hall paths

/-! ## 6. The four passes -/

theorem Generated.map_mapOutcome_id (result : Except Failure (List Generated)) :
    result.map (List.map (Generated.mapOutcome id)) = result := by
  have hid : Generated.mapOutcome id = id := rfl
  rw [hid, List.map_id_fun]
  cases result <;> rfl

/-- **What the policy can change.**  Beside a pass under `ignore`:

* the one under `warn` has the same result, tree and calls;
* the one under `fail` too, if every answer was a success; else it ends with the first call that was
  answered by none, on the tree of that call, and fails with the answer;
* the one without a compiler has the same tree and makes no call; it fails with the same failure, or
  succeeds with the same files, all of them skipped. -/
theorem generateSchemas_policies (hc : c.LeavesTree) {t : FileTree}
    {result : Except Failure (List Generated)} {st : State}
    (h : generateSchemas (s.withPolicy .ignore) c (.initial t) = (result, st)) :
    (∃ st', generateSchemas (s.withPolicy .warn) c (.initial t) = (result, st') ∧
      st'.tree = st.tree ∧ st'.calls = st.calls) ∧
    (c.AllSucceed st.calls →
      ∃ st', generateSchemas (s.withPolicy .fail) c (.initial t) = (result, st') ∧
        st'.tree = st.tree ∧ st'.calls = st.calls) ∧
    (¬ c.AllSucceed st.calls →
      ∃ failure st', generateSchemas (s.withPolicy .fail) c (.initial t) = (.error failure, st') ∧
        EndsAtFailure s c st.calls failure st') ∧
    ∃ st', generateSchemas s.withoutCompiler c (.initial t) =
        (result.map (List.map (Generated.mapOutcome fun _ => .skipped)), st') ∧
      st'.tree = st.tree ∧ st'.calls = [] := by
  have hwarn := generateSchemas_inStep (compilesInStep_warn s c)
    (⟨rfl, rfl⟩ : State.InStep (fun a b => b = a) (.initial t) (.initial t))
  have hskip := generateSchemas_inStep (compilesInStep_disabled hc s)
    (⟨rfl, rfl⟩ : State.InStep (fun _ b => b = []) (.initial t) (.initial t))
  have hfail := generateSchemas_upToFailure (s := s) hc
    (⟨rfl, rfl⟩ : State.InStep (fun a b => b = a) (.initial t) (.initial t)) c.allSucceed_nil
  rw [← Settings.withPolicy, ← Settings.withPolicy, h, Generated.map_mapOutcome_id] at hwarn
  rw [← Settings.withPolicy, ← Settings.withoutCompiler, h] at hskip
  rw [h] at hfail
  dsimp only at hwarn hskip
  refine ⟨⟨_, Prod.ext hwarn.1 rfl, hwarn.2.tree, hwarn.2.calls⟩, fun hall => ?_, fun hnot => ?_,
    ⟨_, Prod.ext hskip.1 rfl, hskip.2.tree, hskip.2.calls⟩⟩
  · cases hfail with
    | inStep succeed hsame state =>
      dsimp only at hsame
      exact ⟨_, Prod.ext hsame rfl, state.tree, state.calls⟩
    | ended failure result ends => exact absurd hall ends.not_allSucceed
  · cases hfail with
    | inStep succeed result state => exact absurd succeed hnot
    | ended failure result ends => exact ⟨failure, _, Prod.ext result rfl, ends⟩

namespace FirstCallFails

/-- A compiler that fails once and then succeeds. -/
def compiler : Compiler :=
  .scripted "protoc" [.ended ⟨some 1⟩, .ended ⟨some 0⟩]

/-- What comes of two files if the policy goes on. -/
def results : List Generated :=
  [⟨"Bar", "in/out/BarSeries.proto", .failed ⟨some 1⟩⟩,
    ⟨"Quote", "in/out/QuoteSeries.proto", .succeeded⟩]

/-- The pass over the two files that ignores the failure. -/
def pass : Except Failure (List Generated) × State :=
  generateSchemas (TwoFiles.settings.withPolicy .ignore) compiler (.initial TwoFiles.tree)

theorem pass_eq : pass.1 = .ok results ∧ pass.2.calls.length = 2 := by
  have hdiscovers : discover (TwoFiles.settings.withPolicy .ignore) TwoFiles.tree =
      .ok ["in/A.java", "in/B.java"] := TwoFiles.discovers
  rw [pass, generateSchemas]
  simp only [State.initial, hdiscovers]
  decide +kernel

theorem not_allSucceed : ¬ compiler.AllSucceed pass.2.calls := by
  intro hall
  obtain ⟨first, more, hcalls⟩ := List.exists_cons_of_length_eq_add_one pass_eq.2
  have hfirst : compiler.Succeeds [] first := hall [] first ⟨more, hcalls.symm⟩
  exact absurd hfirst Bool.false_ne_true

end FirstCallFails

theorem generateSchemas_policies_firstCallFails :
    FirstCallFails.compiler.LeavesTree ∧
    ∃ st, generateSchemas (TwoFiles.settings.withPolicy .ignore) FirstCallFails.compiler
        (.initial TwoFiles.tree) = (.ok FirstCallFails.results, st) ∧
      (∃ st', generateSchemas (TwoFiles.settings.withPolicy .warn) FirstCallFails.compiler
          (.initial TwoFiles.tree) = (.ok FirstCallFails.results, st') ∧
        st'.tree = st.tree ∧ st'.calls = st.calls) ∧
      (∃ failure st', generateSchemas (TwoFiles.settings.withPolicy .fail) FirstCallFails.compiler
          (.initial TwoFiles.tree) = (.error failure, st') ∧
        EndsAtFailure TwoFiles.settings FirstCallFails.compiler st.calls failure st') ∧
      ∃ st', generateSchemas TwoFiles.settings.withoutCompiler FirstCallFails.compiler
          (.initial TwoFiles.tree) = (.ok (FirstCallFails.results.map
            (Generated.mapOutcome fun _ => .skipped)), st') ∧
        st'.tree = st.tree ∧ st'.calls = [] := by
  have hc : FirstCallFails.compiler.LeavesTree := Compiler.leavesTree_scripted _ _
  have hpass : generateSchemas (TwoFiles.settings.withPolicy .ignore) FirstCallFails.compiler
      (.initial TwoFiles.tree) = (.ok FirstCallFails.results, FirstCallFails.pass.2) :=
    Prod.ext FirstCallFails.pass_eq.1 rfl
  obtain ⟨hwarn, -, hfail, hskip⟩ := generateSchemas_policies hc hpass
  exact ⟨hc, _, hpass, hwarn, hfail FirstCallFails.not_allSucceed, hskip⟩

end SeriesSchema
