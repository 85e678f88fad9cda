import SeriesSchema.Generation
import SeriesSchema.Proofs.TreeChanges

/-!
# The steps of a pass

What each step of a pass can come to, said once for each: reading a file, writing its schema,
calling the compiler, and all three in a row (`generateFile_cases`).  A pass over several files is
the steps of one file after the other.  It succeeds if all of them do, and fails with the first one
that fails (`generateFiles_eq_error`).
-/

namespace SeriesSchema

open FileTree

variable {s : Settings} {c : Compiler}

/-! ## 1. Reading -/

/-- A document comes from a text that can be read, and from the definition in it. -/
theorem renderFile_eq_ok {t : FileTree} {path : Path} {doc : Document}
    (h : renderFile s t path = .ok doc) :
    ∃ source d, t.read path = .ok source ∧ s.extractor.extract? source = some d ∧
      doc = .ofDefinition d s.javaPackage := by
  rw [renderFile, readDefinition] at h
  split at h
  · cases h
  · rename_i source hread
    split at h
    · rename_i d hd
      exact ⟨source, d, hread, hd, (Except.ok.inj h).symm⟩
    · cases h

/-- Reading fails if there is no text, or no type in it. -/
theorem renderFile_eq_error {t : FileTree} {path : Path} {failure : Failure}
    (h : renderFile s t path = .error failure) :
    (∃ reason, failure = .unreadable path reason) ∨ failure = .noDeclaration path := by
  rw [renderFile, readDefinition] at h
  split at h
  · rename_i reason hread
    exact Or.inl ⟨reason, (Except.error.inj h).symm⟩
  · split at h
    · cases h
    · exact Or.inr (Except.error.inj h).symm

/-- Nothing is told about a file that is not read. -/
theorem readingEvents_of_error {t : FileTree} {path : Path} {failure : Failure}
    (h : renderFile s t path = .error failure) : readingEvents s t path = [] := by
  rw [renderFile] at h
  rw [readingEvents]
  cases hread : readDefinition s t path with
  | error reason => rfl
  | ok d =>
    rw [hread] at h
    cases h

/-- What is read depends on the text at the path alone. -/
theorem renderFile_congr {t u : FileTree} {path : Path} (h : t.read path = u.read path) :
    renderFile s t path = renderFile s u path := by
  rw [renderFile, renderFile, readDefinition, readDefinition, h]

theorem readingEvents_congr {t u : FileTree} {path : Path} (h : t.read path = u.read path) :
    readingEvents s t path = readingEvents s u path := by
  rw [readingEvents, readingEvents, readDefinition, readDefinition, h]

/-! ## 2. Writing -/

/-- The path of the schema file of a document. -/
def Settings.schemaPath (s : Settings) (doc : Document) : String :=
  Path.join s.protoOutDir doc.fileName

/-- **Writing a schema** makes the directories of the output path, and then writes the text of the
document to its file; if it fails, at most directories were made. -/
theorem writeSchema_cases {doc : Document} {t u : FileTree} {result : Except Failure String}
    (h : writeSchema s doc t = (result, u)) :
    (∃ path reason, result = .error (.unwritable path reason) ∧
      t.AddsDirectories u (u.Passes s.protoOutDir)) ∨
    (result = .ok (s.schemaPath doc) ∧ ∃ made place,
      t.AddsDirectories made (made.Passes s.protoOutDir) ∧
        made.resolve (s.schemaPath doc) = .ok place ∧ made.WritesAt u place doc.render) := by
  rw [writeSchema] at h
  split at h
  · rename_i reason made hmade
    obtain ⟨rfl, rfl⟩ := Prod.mk.inj h
    exact Or.inl ⟨_, _, rfl, createDirectories_adds hmade⟩
  · rename_i made hmade
    have hadds := createDirectories_adds hmade
    dsimp only at h
    split at h
    · obtain ⟨rfl, rfl⟩ := Prod.mk.inj h
      exact Or.inl ⟨_, _, rfl, hadds⟩
    · rename_i written hwrite
      obtain ⟨rfl, rfl⟩ := Prod.mk.inj h
      obtain ⟨place, hresolve, hwrites⟩ := writesAt_of_write hwrite
      exact Or.inr ⟨rfl, made, place, hadds, hresolve, hwrites⟩

/-- Writing a schema keeps the directories, whether or not it fails. -/
theorem keeps_of_writeSchema {doc : Document} {t u : FileTree} {result : Except Failure String}
    (h : writeSchema s doc t = (result, u)) : t.Keeps u := by
  rcases writeSchema_cases h with ⟨_, _, -, hadds⟩ | ⟨-, made, place, hadds, -, hwrites⟩
  · exact hadds.keeps
  · exact hadds.keeps.trans hwrites.keeps

/-! ## 3. Compiling -/

/-- A compiler that leaves the files alone. -/
def Compiler.LeavesTree (c : Compiler) : Prop :=
  ∀ earlier call, (c.start earlier call).2 = call.tree

theorem Compiler.leavesTree_scripted (program : String) (script : List Answer) :
    (Compiler.scripted program script).LeavesTree :=
  fun _ _ => rfl

/-- The call that is made for a schema file on a tree. -/
def Settings.callFor (s : Settings) (schema : String) (tree : FileTree) : Call :=
  ⟨Compiler.javaArguments s.protoOutDir s.outputJavaDir schema, tree⟩

theorem compile_of_enabled (h : s.compiler.enabled = true) (schema : String) (st : State) :
    compile s c schema st =
      ((judge s c.program schema (c.start st.calls (s.callFor schema st.tree)).1).1,
        ⟨(c.start st.calls (s.callFor schema st.tree)).2,
          st.calls ++ [s.callFor schema st.tree],
          st.events ++ c.announce (s.callFor schema st.tree).arguments ++
            (judge s c.program schema (c.start st.calls (s.callFor schema st.tree)).1).2⟩) := by
  rw [compile, if_pos h]
  rfl

theorem compile_of_not_enabled (h : s.compiler.enabled = false) (schema : String) (st : State) :
    compile s c schema st = (.ok .skipped, st) := by
  rw [compile, if_neg (by simp [h])]

/-- Compiling changes the tree only if the compiler does. -/
theorem tree_compile {schema : String} {st st' : State} {verdict : Except Failure Outcome}
    (hc : c.LeavesTree) (h : compile s c schema st = (verdict, st')) : st'.tree = st.tree := by
  cases henabled : s.compiler.enabled with
  | false =>
    rw [compile_of_not_enabled henabled] at h
    rw [← (Prod.mk.inj h).2]
  | true =>
    rw [compile_of_enabled henabled] at h
    rw [← (Prod.mk.inj h).2]
    exact hc _ _

/-- Compiling takes back no call. -/
theorem calls_prefix_compile (s : Settings) (c : Compiler) (schema : String) (st : State) :
    st.calls <+: (compile s c schema st).2.calls := by
  cases henabled : s.compiler.enabled with
  | false =>
    have hsame : (compile s c schema st).2.calls = st.calls := by
      rw [compile_of_not_enabled henabled]
    exact ⟨[], by rw [hsame, List.append_nil]⟩
  | true =>
    rw [compile_of_enabled henabled]
    exact List.prefix_append _ _

/-- A verdict that ends the pass names the schema, or the compiler. -/
theorem judge_eq_error {program schema : String} {answer : Answer} {failure : Failure}
    (h : (judge s program schema answer).1 = .error failure) :
    (∃ status, failure = .compilerFailed schema status) ∨
      ∃ reason, failure = .compilerUnavailable program reason := by
  unfold judge at h
  split at h
  · split at h
    · cases h
    · split at h
      · exact Or.inl ⟨_, (Except.error.inj h).symm⟩
      · cases h
      · cases h
  · split at h
    · exact Or.inr ⟨_, (Except.error.inj h).symm⟩
    · cases h
    · cases h

/-- Compiling fails only with a call, and that call is the last one. -/
theorem compile_eq_error {schema : String} {st st' : State} {failure : Failure}
    (h : compile s c schema st = (.error failure, st')) :
    st'.calls = st.calls ++ [s.callFor schema st.tree] ∧
      ((∃ status, failure = .compilerFailed schema status) ∨
        ∃ reason, failure = .compilerUnavailable c.program reason) := by
  cases henabled : s.compiler.enabled with
  | false =>
    rw [compile_of_not_enabled henabled] at h
    cases (Prod.mk.inj h).1
  | true =>
    rw [compile_of_enabled henabled] at h
    obtain ⟨hverdict, rfl⟩ := Prod.mk.inj h
    exact ⟨rfl, judge_eq_error hverdict⟩

/-! ## 4. One file -/

/-- The state in which the compiler is called: the schema of a file is written, and the tree is what
the writing left. -/
def State.written (st : State) (s : Settings) (path : Path) (doc : Document) (tree : FileTree) :
    State :=
  ({ st.tell (readingEvents s st.tree path) with tree } : State).tell
    [.wrote path.display (s.schemaPath doc) doc.fields.length]

@[simp] theorem State.tree_written (st : State) (path : Path) (doc : Document)
    (tree : FileTree) : (st.written s path doc tree).tree = tree := rfl

@[simp] theorem State.calls_written (st : State) (path : Path) (doc : Document)
    (tree : FileTree) : (st.written s path doc tree).calls = st.calls := rfl

/-- **What a file can come to**: it is not read, its schema is not written, or its schema is written
and the compiler has the last word. -/
theorem generateFile_cases {path : Path} {st st' : State} {result : Except Failure Generated}
    (h : generateFile s c path st = (result, st')) :
    (∃ failure, renderFile s st.tree path = .error failure ∧ result = .error failure ∧
      st' = st) ∨
    (∃ doc failure tree, renderFile s st.tree path = .ok doc ∧
      writeSchema s doc st.tree = (.error failure, tree) ∧ result = .error failure ∧
        st' = { st.tell (readingEvents s st.tree path) with tree }) ∨
    (∃ doc tree verdict, renderFile s st.tree path = .ok doc ∧
      writeSchema s doc st.tree = (.ok (s.schemaPath doc), tree) ∧
        compile s c (s.schemaPath doc) (st.written s path doc tree) = (verdict, st') ∧
          result = verdict.map (⟨doc.record, s.schemaPath doc, ·⟩)) := by
  rw [generateFile] at h
  split at h
  · rename_i failure hrender
    obtain ⟨rfl, rfl⟩ := Prod.mk.inj h
    exact Or.inl ⟨failure, hrender, rfl, rfl⟩
  · rename_i doc hrender
    right
    dsimp only at h
    split at h
    · rename_i failure tree hwrite
      obtain ⟨rfl, rfl⟩ := Prod.mk.inj h
      exact Or.inl ⟨doc, failure, tree, hrender, hwrite, rfl, rfl⟩
    · rename_i schema tree hwrite
      right
      obtain rfl : schema = s.schemaPath doc := by
        rcases writeSchema_cases hwrite with ⟨_, _, herror, -⟩ | ⟨hok, -⟩
        · cases herror
        · exact Except.ok.inj hok
      split at h
      · rename_i failure after hcompile
        obtain ⟨rfl, rfl⟩ := Prod.mk.inj h
        exact ⟨doc, tree, .error failure, hrender, hwrite, hcompile, rfl⟩
      · rename_i outcome after hcompile
        obtain ⟨rfl, rfl⟩ := Prod.mk.inj h
        exact ⟨doc, tree, .ok outcome, hrender, hwrite, hcompile, rfl⟩

/-- What becomes of a file before the compiler is called: its document is read, and its schema is
written. -/
def publish (s : Settings) (path : Path) (t : FileTree) : Except Failure Document × FileTree :=
  match renderFile s t path with
  | .error failure => (.error failure, t)
  | .ok doc =>
    match writeSchema s doc t with
    | (.error failure, tree) => (.error failure, tree)
    | (.ok _, tree) => (.ok doc, tree)

/-- The work on a file is to publish its schema and, if that goes well, to call the compiler. -/
theorem generateFile_eq (path : Path) (st : State) :
    generateFile s c path st =
      match publish s path st.tree with
      | (.error failure, tree) =>
        (.error failure, { st.tell (readingEvents s st.tree path) with tree })
      | (.ok doc, tree) =>
        ((compile s c (s.schemaPath doc) (st.written s path doc tree)).1.map
            (⟨doc.record, s.schemaPath doc, ·⟩),
          (compile s c (s.schemaPath doc) (st.written s path doc tree)).2) := by
  obtain ⟨result, st', hrun⟩ : ∃ result st', generateFile s c path st = (result, st') := ⟨_, _, rfl⟩
  rw [hrun, publish]
  rcases generateFile_cases hrun with ⟨failure, hrender, rfl, rfl⟩ |
    ⟨doc, failure, tree, hrender, hwrite, rfl, rfl⟩ |
    ⟨doc, tree, verdict, hrender, hwrite, hcompile, rfl⟩
  · simp only [hrender, readingEvents_of_error hrender, State.tell, List.append_nil]
  · simp only [hrender, hwrite]
  · simp only [hrender, hwrite, hcompile]

/-- The work on a file that succeeds: its schema is written, the compiler succeeds, and the result
names both. -/
theorem generateFile_eq_ok {path : Path} {st st' : State} {g : Generated}
    (h : generateFile s c path st = (.ok g, st')) :
    ∃ doc tree outcome, renderFile s st.tree path = .ok doc ∧
      writeSchema s doc st.tree = (.ok (s.schemaPath doc), tree) ∧
        compile s c (s.schemaPath doc) (st.written s path doc tree) = (.ok outcome, st') ∧
          g = ⟨doc.record, s.schemaPath doc, outcome⟩ := by
  rcases generateFile_cases h with ⟨_, -, herror, -⟩ | ⟨_, _, _, -, -, herror, -⟩ |
    ⟨doc, tree, verdict, hrender, hwrite, hcompile, hresult⟩
  · cases herror
  · cases herror
  · cases verdict with
    | error failure => cases hresult
    | ok outcome => exact ⟨doc, tree, outcome, hrender, hwrite, hcompile, Except.ok.inj hresult⟩

/-- The work on a file keeps the directories. -/
theorem keeps_of_generateFile (hc : c.LeavesTree) {path : Path} {st st' : State}
    {result : Except Failure Generated} (h : generateFile s c path st = (result, st')) :
    st.tree.Keeps st'.tree := by
  rcases generateFile_cases h with ⟨_, -, -, rfl⟩ | ⟨_, _, tree, -, hwrite, -, rfl⟩ |
    ⟨doc, tree, verdict, -, hwrite, hcompile, -⟩
  · exact .refl _
  · exact keeps_of_writeSchema hwrite
  · rw [tree_compile hc hcompile]
    exact keeps_of_writeSchema hwrite

theorem calls_prefix_generateFile (s : Settings) (c : Compiler) (path : Path) (st : State) :
    st.calls <+: (generateFile s c path st).2.calls := by
  rw [generateFile_eq]
  rcases publish s path st.tree with ⟨failure | doc, tree⟩
  · exact List.prefix_rfl
  · exact calls_prefix_compile s c (s.schemaPath doc) (st.written s path doc tree)

/-! ## 5. All files -/

/-- The first file, and then the others if it succeeds. -/
theorem generateFiles_cons (path : Path) (paths : List Path) (st : State) :
    generateFiles s c (path :: paths) st =
      match (generateFile s c path st).1 with
      | .error failure => (.error failure, (generateFile s c path st).2)
      | .ok g =>
        ((generateFiles s c paths (generateFile s c path st).2).1.map (g :: ·),
          (generateFiles s c paths (generateFile s c path st).2).2) := by
  rw [generateFiles]
  rcases generateFile s c path st with ⟨failure | g, next⟩
  · rfl
  · dsimp only
    rcases generateFiles s c paths next with ⟨failure | more, last⟩
    · rfl
    · rfl

/-- **The calls of a pass only become more.** -/
theorem calls_prefix_generateFiles (s : Settings) (c : Compiler) (paths : List Path)
    (st : State) : st.calls <+: (generateFiles s c paths st).2.calls := by
  induction paths generalizing st with
  | nil => exact List.prefix_rfl
  | cons path paths ih =>
    have hfile := calls_prefix_generateFile s c path st
    rw [generateFiles_cons]
    cases (generateFile s c path st).1 with
    | error failure => exact hfile
    | ok g => exact hfile.trans (ih _)

theorem generateFiles_cons_eq_ok {path : Path} {paths : List Path} {st st' : State}
    {gs : List Generated} :
    generateFiles s c (path :: paths) st = (.ok gs, st') ↔
      ∃ g more next, generateFile s c path st = (.ok g, next) ∧
        generateFiles s c paths next = (.ok more, st') ∧ gs = g :: more := by
  rw [generateFiles]
  constructor
  · intro h
    split at h
    · cases (Prod.mk.inj h).1
    · rename_i g next hfile
      split at h
      · cases (Prod.mk.inj h).1
      · rename_i more last hfiles
        obtain ⟨hgs, rfl⟩ := Prod.mk.inj h
        exact ⟨g, more, next, hfile, hfiles, (Except.ok.inj hgs).symm⟩
  · rintro ⟨g, more, next, hfile, hfiles, rfl⟩
    simp only [hfile, hfiles]

/-- **A pass fails with the first file that fails**: those before it succeed, it is worked on in
the state that they leave, and nothing follows. -/
theorem generateFiles_eq_error {paths : List Path} {st st' : State} {failure : Failure} :
    generateFiles s c paths st = (.error failure, st') ↔
      ∃ before path after gs next, paths = before ++ path :: after ∧
        generateFiles s c before st = (.ok gs, next) ∧
          generateFile s c path next = (.error failure, st') := by
  constructor
  · intro h
    induction paths generalizing st with
    | nil => cases (Prod.mk.inj h).1
    | cons path paths ih =>
      rw [generateFiles] at h
      split at h
      · rename_i failure' last hfile
        obtain ⟨hfailure, rfl⟩ := Prod.mk.inj h
        obtain rfl := Except.error.inj hfailure
        exact ⟨[], path, paths, [], st, rfl, rfl, hfile⟩
      · rename_i g next hfile
        split at h
        · rename_i failure' last hfiles
          obtain ⟨hfailure, rfl⟩ := Prod.mk.inj h
          obtain rfl := Except.error.inj hfailure
          obtain ⟨before, path', after, gs, mid, rfl, hbefore, hlast⟩ := ih hfiles
          exact ⟨path :: before, path', after, g :: gs, mid, rfl,
            generateFiles_cons_eq_ok.mpr ⟨g, gs, next, hfile, hbefore, rfl⟩, hlast⟩
        · cases (Prod.mk.inj h).1
  · rintro ⟨before, path, after, gs, next, rfl, hbefore, hlast⟩
    induction before generalizing st gs with
    | nil =>
      obtain ⟨-, rfl⟩ := Prod.mk.inj hbefore
      rw [List.nil_append, generateFiles, hlast]
    | cons first before ih =>
      obtain ⟨g, more, mid, hfile, hfiles, -⟩ := generateFiles_cons_eq_ok.mp hbefore
      rw [List.cons_append, generateFiles, hfile]
      simp only [ih more hfiles]

/-- The state in which a pass over some inputs begins. -/
def State.opening (s : Settings) (t : FileTree) (inputs : List Path) : State :=
  (State.initial t).tell [.listed s.inputDir inputs.length s.extractor.name]

/-- A pass begins with the files that are found. -/
theorem generateSchemas_of_discover {t : FileTree} {inputs : List Path}
    (h : discover s t = .ok inputs) :
    generateSchemas s c (.initial t) = generateFiles s c inputs (.opening s t inputs) := by
  rw [generateSchemas]
  simp only [State.initial, h]
  rfl

/-- A pass that cannot list its inputs does nothing. -/
theorem generateSchemas_of_discover_error {t : FileTree} {failure : Failure}
    (h : discover s t = .error failure) :
    generateSchemas s c (.initial t) = (.error failure, .initial t) := by
  rw [generateSchemas]
  simp only [State.initial, h]

end SeriesSchema
