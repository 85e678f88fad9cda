import SeriesSchema.Proofs.AlikeTrees
import SeriesSchema.Proofs.SchemaFiles

/-!
# Failing passes

A pass that fails does so on one file.  The files before it have been handled as a pass over them
alone would do, what the failed file leaves behind depends on the kind of failure
(`LeavesBehind`), and the files after it do not matter.

That they do not matter is a statement about two passes, on trees that are alike but for what the
later files hold.  The compiler goes by a script: its answers depend on the arguments of its calls,
and it leaves the files alone.  Then the two passes stay alike from file to file
(`State.AlikeBut.generateFile`).

1. what a failed file leaves behind;
2. alike states, and one file in both;
3. the files of alike trees;
4. the pass.
-/

namespace SeriesSchema

open FileTree

variable {s : Settings} {c : Compiler}

/-! ## 1. What is left behind -/

/-- What a file that failed leaves behind, by the kind of its failure. -/
def LeavesBehind (s : Settings) (path : Path) (st st' : State) : Failure → Prop
  | .unreadable p _ | .noDeclaration p => p = path ∧ st' = st
  | .unwritable _ _ =>
    st.tree.AddsDirectories st'.tree (st'.tree.Passes s.protoOutDir) ∧ st'.calls = st.calls
  | .compilerFailed _ _ | .compilerUnavailable _ _ =>
    ∃ doc, renderFile s st.tree path = .ok doc ∧ Written s st.tree st'.tree [doc] ∧
      st'.tree.read (s.schemaPath doc) = .ok doc.render ∧
      st'.calls = st.calls ++ [s.callFor (s.schemaPath doc) st'.tree]
  | .unlistable _ _ | .settings _ => False

/-- **A file that fails leaves behind what its failure permits**, and its failure is one of the five
kinds that the work on a file can have. -/
theorem leavesBehind_of_generateFile (hc : c.LeavesTree) {path : Path} {st st' : State}
    {failure : Failure} (h : generateFile s c path st = (.error failure, st')) :
    LeavesBehind s path st st' failure := by
  rcases generateFile_cases h with ⟨failure', hrender, hfailure, rfl⟩ |
    ⟨doc, failure', tree, -, hwrite, hfailure, rfl⟩ |
    ⟨doc, tree, verdict, hrender, hwrite, hcompile, hresult⟩
  · obtain rfl := Except.error.inj hfailure
    rcases renderFile_eq_error hrender with ⟨reason, rfl⟩ | rfl
    · exact ⟨rfl, rfl⟩
    · exact ⟨rfl, rfl⟩
  · obtain rfl := Except.error.inj hfailure
    rcases writeSchema_cases hwrite with ⟨_, _, hresult, hadds⟩ | ⟨hresult, -⟩
    · obtain rfl := Except.error.inj hresult
      exact ⟨hadds, rfl⟩
    · cases hresult
  · cases verdict with
    | ok outcome => cases hresult
    | error failure' =>
      obtain rfl := Except.error.inj hresult
      obtain ⟨hcalls, hkind⟩ := compile_eq_error hcompile
      have htree : st'.tree = tree := tree_compile hc hcompile
      have hwritten : Written s st.tree st'.tree [doc] := by
        rw [htree]
        exact (Written.refl s st.tree).writeSchema (namesFile_of_renderFile hrender)
          hwrite
      have hread := hwritten.text [] doc [] rfl (by simp)
      rw [State.calls_written, State.tree_written, ← htree] at hcalls
      rcases hkind with ⟨status, rfl⟩ | ⟨reason, rfl⟩
      · exact ⟨doc, hrender, hwritten, hread, hcalls⟩
      · exact ⟨doc, hrender, hwritten, hread, hcalls⟩

/-- Whatever becomes of a file, the invariant of the pass goes on. -/
theorem Written.generateFile_error {before : FileTree} {docs : List Document} {st st' : State}
    (h : Written s before st.tree docs) (hc : c.LeavesTree) {path : Path} {failure : Failure}
    (hrun : SeriesSchema.generateFile s c path st = (.error failure, st')) :
    ∃ more, Written s before st'.tree more := by
  rcases generateFile_cases hrun with ⟨_, -, -, rfl⟩ | ⟨_, _, tree, -, hwrite, -, rfl⟩ |
    ⟨doc, tree, verdict, hrender, hwrite, hcompile, -⟩
  · exact ⟨docs, h⟩
  · rcases writeSchema_cases hwrite with ⟨_, _, -, hadds⟩ | ⟨hresult, -⟩
    · exact ⟨docs, h.addsDirectories hadds⟩
    · cases hresult
  · rw [tree_compile hc hcompile]
    exact ⟨docs ++ [doc], h.writeSchema (namesFile_of_renderFile hrender) hwrite⟩

/-! ## 2. Alike states -/

/-- A compiler that goes by a script: what it answers depends on the arguments of its calls, and it
leaves the files alone. -/
def Compiler.IsScripted (c : Compiler) : Prop :=
  ∃ answer : List (List String) → List String → Answer, ∀ earlier call,
    c.start earlier call = (answer (earlier.map Call.arguments) call.arguments, call.tree)

theorem Compiler.isScripted_scripted (program : String) (script : List Answer) :
    (Compiler.scripted program script).IsScripted :=
  ⟨fun earlier _ => scriptAnswer script earlier.length, fun earlier call => by simp [scripted]⟩

theorem Compiler.IsScripted.leavesTree (h : c.IsScripted) : c.LeavesTree := by
  obtain ⟨answer, hanswer⟩ := h
  intro earlier call
  rw [hanswer]

/-- Two passes have come to the same, on trees that are alike. -/
structure State.AlikeBut (hidden : Location → Prop) (st st' : State) : Prop where
  tree : st.tree.AlikeBut hidden st'.tree
  calls : List.Forall₂ (fun a b => a.arguments = b.arguments ∧
    FileTree.AlikeBut hidden a.tree b.tree) st.calls st'.calls
  events : st.events = st'.events

variable {hidden : Location → Prop}

theorem arguments_eq_of_forall₂ {calls calls' : List Call}
    (h : List.Forall₂ (fun a b => a.arguments = b.arguments ∧
      FileTree.AlikeBut hidden a.tree b.tree) calls calls') :
    calls.map Call.arguments = calls'.map Call.arguments := by
  induction h with
  | nil => rfl
  | cons hcall _ ih => rw [List.map_cons, List.map_cons, hcall.1, ih]

/-- The same becomes of a schema in alike trees. -/
theorem FileTree.AlikeBut.writeSchema {t u made : FileTree} (h : FileTree.AlikeBut hidden t u)
    {doc : Document} {result : Except Failure String}
    (hwrite : writeSchema s doc t = (result, made)) :
    ∃ made', SeriesSchema.writeSchema s doc u = (result, made') ∧
      FileTree.AlikeBut hidden made made' := by
  obtain ⟨hresult, htree⟩ := h.createDirectories s.protoOutDir
  rw [SeriesSchema.writeSchema] at hwrite ⊢
  revert hwrite hresult htree
  generalize t.createDirectories s.protoOutDir = first, u.createDirectories s.protoOutDir = first'
  obtain ⟨verdict, first⟩ := first
  obtain ⟨verdict', first'⟩ := first'
  rintro hwrite rfl htree
  cases verdict with
  | error reason =>
    obtain ⟨rfl, rfl⟩ := Prod.mk.inj hwrite
    exact ⟨first', rfl, htree⟩
  | ok =>
    have hfile := FileTree.AlikeBut.write htree (Path.join s.protoOutDir doc.fileName) doc.render
    dsimp only at hfile hwrite ⊢
    revert hfile hwrite
    generalize first.write (Path.join s.protoOutDir doc.fileName) doc.render = second,
      first'.write (Path.join s.protoOutDir doc.fileName) doc.render = second'
    rintro hwrite (reason | hfile)
    · obtain ⟨rfl, rfl⟩ := Prod.mk.inj hwrite
      exact ⟨first', rfl, htree⟩
    · obtain ⟨rfl, rfl⟩ := Prod.mk.inj hwrite
      exact ⟨_, rfl, hfile⟩

namespace State.AlikeBut

variable {st st' next : State}

/-- The compiler gives the same answer in alike states, since it gets the same arguments. -/
theorem compile (h : State.AlikeBut hidden st st') (hc : c.IsScripted) {schema : String}
    {verdict : Except Failure Outcome} (hcompile : compile s c schema st = (verdict, next)) :
    ∃ next', SeriesSchema.compile s c schema st' = (verdict, next') ∧
      State.AlikeBut hidden next next' := by
  cases henabled : s.compiler.enabled with
  | false =>
    rw [compile_of_not_enabled henabled] at hcompile ⊢
    obtain ⟨rfl, rfl⟩ := Prod.mk.inj hcompile
    exact ⟨st', rfl, h⟩
  | true =>
    obtain ⟨answer, hanswer⟩ := hc
    rw [compile_of_enabled henabled, hanswer] at hcompile ⊢
    obtain ⟨rfl, rfl⟩ := Prod.mk.inj hcompile
    rw [arguments_eq_of_forall₂ h.calls, h.events]
    exact ⟨_, rfl, h.tree, List.rel_append h.calls (.cons ⟨rfl, h.tree⟩ .nil), rfl⟩

/-- **One file in alike states**: if the same is read, all comes to the same. -/
theorem generateFile (h : State.AlikeBut hidden st st') (hc : c.IsScripted) {path : Path}
    (hread : st.tree.read path = st'.tree.read path) {result : Except Failure Generated}
    (hrun : generateFile s c path st = (result, next)) :
    ∃ next', SeriesSchema.generateFile s c path st' = (result, next') ∧
      State.AlikeBut hidden next next' := by
  have hevents : st.events ++ readingEvents s st.tree path =
      st'.events ++ readingEvents s st'.tree path := by
    rw [h.events, readingEvents_congr hread]
  rw [SeriesSchema.generateFile, ← renderFile_congr hread]
  rcases generateFile_cases hrun with ⟨failure, hrender, rfl, rfl⟩ |
    ⟨doc, failure, tree, hrender, hwrite, rfl, rfl⟩ |
    ⟨doc, tree, verdict, hrender, hwrite, hcompile, rfl⟩
  · simp only [hrender]
    exact ⟨st', rfl, h⟩
  · obtain ⟨tree', hwrite', htree⟩ := FileTree.AlikeBut.writeSchema h.tree hwrite
    simp only [hrender, State.tell, hwrite']
    exact ⟨_, rfl, htree, h.calls, hevents⟩
  · obtain ⟨tree', hwrite', htree⟩ := FileTree.AlikeBut.writeSchema h.tree hwrite
    have hwritten : State.AlikeBut hidden (st.written s path doc tree)
        (st'.written s path doc tree') :=
      ⟨htree, h.calls, congrArg (· ++ _) hevents⟩
    obtain ⟨next', hcompile', hnext⟩ := hwritten.compile hc hcompile
    refine ⟨next', ?_, hnext⟩
    rw [State.written] at hcompile'
    simp only [hrender, State.tell, hwrite'] at hcompile' ⊢
    rw [hcompile']
    cases verdict with
    | error failure => rfl
    | ok outcome => rfl

end State.AlikeBut

/-! ## 3. The inputs of alike trees -/

/-- The place of the file of an input, given its path. -/
def LiesAt (s : Settings) (t : FileTree) (path : Path) (place : Location) : Prop :=
  ∃ (dir : Location) (name : FileName), name.isName = true ∧
    t.walk (t.start s.inputDir) (Path.parts s.inputDir) = .ok dir ∧
      path = Path.child s.inputDir name ∧ place = name :: dir

/-- The files of two paths lie at two places. -/
theorem LiesAt.path_unique {t : FileTree} {path path' : Path} {place : Location}
    (h : LiesAt s t path place) (h' : LiesAt s t path' place) : path = path' := by
  obtain ⟨dir, name, -, -, rfl, rfl⟩ := h
  obtain ⟨dir', name', -, -, rfl, heq⟩ := h'
  rw [(List.cons.inj heq).1]

/-- Where the path of an input lies, there is an input. -/
theorem LiesAt.isInput {t : FileTree} {path : Path} {place : Location}
    (h : LiesAt s t path place) (hpath : IsInputPath s t path) :
    ∃ dir name, IsInput s t dir name ∧ place = name :: dir := by
  obtain ⟨dir, name, hname, hwalk, rfl, rfl⟩ := h
  obtain ⟨dir', name', hwalk', -, hinput, heq⟩ := hpath
  rw [hwalk] at hwalk'
  obtain rfl := Except.ok.inj hwalk'
  obtain rfl := Path.child_inj hname hinput.isName heq
  exact ⟨dir, name, hinput, rfl⟩

namespace FileTree.AlikeBut

variable {t u : FileTree}

theorem liesAt_iff (h : FileTree.AlikeBut hidden t u) {path : Path} {place : Location} :
    LiesAt s t path place ↔ LiesAt s u path place := by
  rw [LiesAt, LiesAt, h.start, funext fun place => funext (h.walk place)]

theorem isInput_iff (h : FileTree.AlikeBut hidden t u) {dir : Location} {name : FileName} :
    IsInput s t dir name ↔ IsInput s u dir name := by
  have hfile := h.holdsFile_iff (name :: dir)
  constructor
  · rintro ⟨hname, hhidden, hextension, htaken, hfile'⟩
    exact ⟨hname, hhidden, hextension, htaken, hfile.mp hfile'⟩
  · rintro ⟨hname, hhidden, hextension, htaken, hfile'⟩
    exact ⟨hname, hhidden, hextension, htaken, hfile.mpr hfile'⟩

/-- **Alike trees have the same inputs**, in the same order. -/
theorem discover (h : FileTree.AlikeBut hidden t u) {inputs : List Path}
    (hinputs : discover s t = .ok inputs) : SeriesSchema.discover s u = .ok inputs :=
  discover_of_keeps h.keeps (fun _ _ => h.isInput_iff) hinputs

/-- An input that does not lie at a hidden place is read alike. -/
theorem read_input (h : FileTree.AlikeBut hidden t u) {before : FileTree}
    (hkeeps : before.Keeps t) {path : Path} (hpath : IsInputPath s before path)
    (hapart : ∀ place, LiesAt s before path place → ¬ hidden place) :
    t.read path = u.read path := by
  obtain ⟨dir, name, hwalk, -, hinput, rfl⟩ := hpath
  obtain ⟨hdot, hdots⟩ := ne_dots_of_not_isHidden hinput.notHidden
  refine h.read fun place hplace => ?_
  rw [← h.resolve] at hplace
  obtain ⟨below, hbelow, -, rfl⟩ := resolve_child_eq_ok hinput.isName hdot hdots hplace
  have hsame : below = dir := by
    have hthere := hkeeps.walk hwalk
    rw [← hkeeps.start, hbelow] at hthere
    exact Except.ok.inj hthere
  rw [hsame]
  exact hapart _ ⟨dir, name, hinput.isName, hwalk, rfl, rfl⟩

end FileTree.AlikeBut

/-! ## 4. The pass -/

/-- **A pass over some inputs in alike states**: if none of them lies at a hidden place, all comes
to the same.  The induction is on the inputs, for all states that keep the directories of `before`,
where the inputs lie. -/
theorem State.AlikeBut.generateFiles {st st' next : State} (h : State.AlikeBut hidden st st')
    (hc : c.IsScripted) {before : FileTree} (hkeeps : before.Keeps st.tree) {paths : List Path}
    (hpaths : ∀ path ∈ paths, IsInputPath s before path ∧
      ∀ place, LiesAt s before path place → ¬ hidden place) {gs : List Generated}
    (hrun : generateFiles s c paths st = (.ok gs, next)) :
    ∃ next', SeriesSchema.generateFiles s c paths st' = (.ok gs, next') ∧
      State.AlikeBut hidden next next' ∧ before.Keeps next.tree := by
  induction paths generalizing st st' gs with
  | nil =>
    obtain ⟨hgs, rfl⟩ := Prod.mk.inj hrun
    obtain rfl := Except.ok.inj hgs
    exact ⟨st', rfl, h, hkeeps⟩
  | cons path paths ih =>
    obtain ⟨g, more, mid, hfile, hfiles, rfl⟩ := generateFiles_cons_eq_ok.mp hrun
    obtain ⟨hpath, hapart⟩ := hpaths path List.mem_cons_self
    have hread := h.tree.read_input hkeeps hpath hapart
    obtain ⟨mid', hfile', hmid⟩ := h.generateFile hc hread hfile
    have hkeeps' := hkeeps.trans (keeps_of_generateFile hc.leavesTree hfile)
    obtain ⟨next', hfiles', hnext, hlast⟩ := ih hmid hkeeps'
      (fun other hmem => hpaths other (List.mem_cons_of_mem _ hmem)) hfiles
    exact ⟨next', generateFiles_cons_eq_ok.mpr ⟨g, more, mid', hfile', hfiles', rfl⟩, hnext, hlast⟩

/-- The places of the files of some inputs. -/
def PlacesOf (s : Settings) (t : FileTree) (inputs : List Path) (place : Location) : Prop :=
  ∃ path ∈ inputs, LiesAt s t path place

/-- No input lies where a later one does. -/
theorem not_placesOf_later {t : FileTree} {before after : List Path} {path : Path}
    (hinputs : discover s t = .ok (before ++ path :: after)) :
    ∀ p ∈ before ++ [path], IsInputPath s t p ∧
      ∀ place, LiesAt s t p place → ¬ PlacesOf s t after place := by
  rw [List.append_cons] at hinputs
  have hnodup := nodup_of_discover hinputs
  intro p hmem
  refine ⟨isInputPath_of_discover hinputs p (List.mem_append_left _ hmem), fun place hlies => ?_⟩
  rintro ⟨q, hq, hlies'⟩
  obtain rfl := hlies.path_unique hlies'
  exact (List.nodup_append.mp hnodup).2.2 p hmem p hq rfl

/-- A pass that fails leaves its inputs as they are. -/
theorem inputs_untouched (hext : s.fileExtension ≠ "proto") (hc : c.LeavesTree) {t : FileTree}
    {before after : List Path} {path : Path} {gs : List Generated} {st st' : State}
    {failure : Failure} (hinputs : discover s t = .ok (before ++ path :: after))
    (hbefore : generateFiles s c before (.opening s t (before ++ path :: after)) = (.ok gs, st))
    (hlast : generateFile s c path st = (.error failure, st')) :
    ∀ place, PlacesOf s t after place → st'.tree.get? place = t.get? place := by
  have hpaths := isInputPath_of_discover hinputs
  obtain ⟨docs, -, -, hwritten⟩ := (Written.refl s t).generateFiles hc hext
    (fun p hmem => hpaths p (List.mem_append_left _ hmem)) hbefore
  obtain ⟨more, hfinal⟩ := hwritten.generateFile_error hc hlast
  rintro place ⟨p, hmem, hlies⟩
  obtain ⟨dir, name, hinput, rfl⟩ :=
    hlies.isInput (hpaths p (List.mem_append_right _ (List.mem_cons_of_mem _ hmem)))
  exact hfinal.input hext hinput

/-- **What a pass that fails has done.**  It failed on one of its inputs.  Those before it were
handled as in a pass over them alone, which succeeds; the failure is that of the work on this input
in the state that they left, and it left behind what its kind permits.

What the later inputs hold does not matter: on every tree that is alike but for their files, the
pass has the same failure, the same calls and the same events, and what it changes are the same
places in the same way, none of them that of a later input. -/
theorem generateSchemas_stops (hext : s.fileExtension ≠ "proto") (hc : c.IsScripted)
    {t : FileTree} {inputs : List Path} (hinputs : discover s t = .ok inputs)
    {failure : Failure} {st' : State}
    (h : generateSchemas s c (.initial t) = (.error failure, st')) :
    ∃ before path after gs st, inputs = before ++ path :: after ∧
      generateFiles s c before (.opening s t inputs) = (.ok gs, st) ∧
      generateFile s c path st = (.error failure, st') ∧
      LeavesBehind s path st st' failure ∧
      ∀ u, FileTree.AlikeBut (PlacesOf s t after) t u →
        ∃ st'', generateSchemas s c (.initial u) = (.error failure, st'') ∧
          State.AlikeBut (PlacesOf s t after) st' st'' ∧
          ∀ place, PlacesOf s t after place →
            st'.tree.get? place = t.get? place ∧ st''.tree.get? place = u.get? place := by
  have hpass : generateFiles s c inputs (.opening s t inputs) = (.error failure, st') := by
    rw [generateSchemas, State.initial] at h
    simp only [hinputs] at h
    exact h
  obtain ⟨before, path, after, gs, st, rfl, hbefore, hlast⟩ := generateFiles_eq_error.mp hpass
  refine ⟨before, path, after, gs, st, rfl, hbefore, hlast,
    leavesBehind_of_generateFile hc.leavesTree hlast, fun u halike => ?_⟩
  have hapart := not_placesOf_later hinputs
  have hinputs' := halike.discover hinputs
  have hopening : State.AlikeBut (PlacesOf s t after) (.opening s t (before ++ path :: after))
      (.opening s u (before ++ path :: after)) := ⟨halike, .nil, rfl⟩
  obtain ⟨mid, hbefore', hmid, hkeeps⟩ := hopening.generateFiles hc (.refl t)
    (fun p hmem => hapart p (List.mem_append_left _ hmem)) hbefore
  obtain ⟨hpath, hnot⟩ := hapart path (List.mem_append_right _ List.mem_cons_self)
  obtain ⟨st'', hlast', hfinal⟩ :=
    hmid.generateFile hc (hmid.tree.read_input hkeeps hpath hnot) hlast
  refine ⟨st'', ?_, hfinal, fun place hplace => ⟨?_, ?_⟩⟩
  · rw [generateSchemas, State.initial]
    simp only [hinputs']
    exact generateFiles_eq_error.mpr ⟨before, path, after, gs, mid, rfl, hbefore', hlast'⟩
  · exact inputs_untouched hext hc.leavesTree hinputs hbefore hlast place hplace
  · obtain ⟨p, hmem, hlies⟩ := hplace
    exact inputs_untouched hext hc.leavesTree hinputs' hbefore' hlast' place
      ⟨p, hmem, halike.liesAt_iff.mp hlies⟩

/-! ## 5. Three files

The compiler fails on the second of three files, and what it does then ends the pass; the third file
is not even a text. -/

namespace ThreeFiles

/-- The settings for two files, with a failure of the compiler ending the pass. -/
def settings : Settings :=
  { TwoFiles.settings with compiler := { onFailure := .fail } }

/-- What the directory of the inputs holds. -/
def items : List (FileName × Entry) :=
  TwoFiles.items ++ [(.text "C.java", .file (.bytes ⟨[0xFE], by decide⟩) false)]

/-- A tree with nothing else. -/
def tree : FileTree :=
  items.foldl (fun t item => t.put [item.1, "in"] item.2) (.empty [])

/-- The paths of the three files. -/
def inputs : List Path :=
  ["in/A.java", "in/B.java", "in/C.java"]

/-- The failure that ends the pass. -/
def failure : Failure :=
  .compilerFailed "in/out/QuoteSeries.proto" ⟨some 1⟩

theorem discovers : discover settings tree = .ok inputs := by
  have hitems : tree.list settings.inputDir = .ok items := by decide +kernel
  have hnames : (items.map Prod.fst).filter (settings.selects tree) =
      (["A.java", "B.java", "C.java"] : List FileName) := by
    decide +kernel
  exact discover_of_pairwise hitems hnames (by decide +kernel)

theorem fails : (generateSchemas settings TwoFiles.compiler (.initial tree)).1 =
    .error failure := by
  rw [generateSchemas]
  simp only [State.initial, discovers]
  decide +kernel

end ThreeFiles

theorem generateSchemas_stops_threeFiles :
    ThreeFiles.settings.fileExtension ≠ "proto" ∧ TwoFiles.compiler.IsScripted ∧
    discover ThreeFiles.settings ThreeFiles.tree = .ok ThreeFiles.inputs ∧
    ∃ st', generateSchemas ThreeFiles.settings TwoFiles.compiler (.initial ThreeFiles.tree) =
        (.error ThreeFiles.failure, st') ∧
      ∃ before path after gs st, ThreeFiles.inputs = before ++ path :: after ∧
        generateFiles ThreeFiles.settings TwoFiles.compiler before
          (.opening ThreeFiles.settings ThreeFiles.tree ThreeFiles.inputs) = (.ok gs, st) ∧
        generateFile ThreeFiles.settings TwoFiles.compiler path st =
          (.error ThreeFiles.failure, st') ∧
        LeavesBehind ThreeFiles.settings path st st' ThreeFiles.failure ∧
        ∀ u, FileTree.AlikeBut (PlacesOf ThreeFiles.settings ThreeFiles.tree after)
            ThreeFiles.tree u →
          ∃ st'', generateSchemas ThreeFiles.settings TwoFiles.compiler (.initial u) =
              (.error ThreeFiles.failure, st'') ∧
            State.AlikeBut (PlacesOf ThreeFiles.settings ThreeFiles.tree after) st' st'' ∧
            ∀ place, PlacesOf ThreeFiles.settings ThreeFiles.tree after place →
              st'.tree.get? place = ThreeFiles.tree.get? place ∧
                st''.tree.get? place = u.get? place := by
  have hext : ThreeFiles.settings.fileExtension ≠ "proto" := by decide
  have hc : TwoFiles.compiler.IsScripted := Compiler.isScripted_scripted _ _
  have hrun : generateSchemas ThreeFiles.settings TwoFiles.compiler (.initial ThreeFiles.tree) =
      (.error ThreeFiles.failure, _) := Prod.ext ThreeFiles.fails rfl
  exact ⟨hext, hc, ThreeFiles.discovers, _, hrun,
    generateSchemas_stops hext hc ThreeFiles.discovers hrun⟩

end SeriesSchema
