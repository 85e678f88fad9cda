import SeriesSchema.Proofs.Directories
import SeriesSchema.Proofs.FailingRun
import SeriesSchema.Proofs.Rewriting

/-!
# A second pass

A pass on the tree that a first one has left.  The compiler answers calls with the same arguments
alike, and leaves the files alone.

The first pass may have changed the tree in two ways: it has made the directory for schema files,
and it has written schemas.

* Once the directory is there, a pass does the same on all trees that are the same but for schema
  files (`generateFiles_performs`).  So the second pass writes the texts that the first one has
  written, and this changes nothing (`FileTree.writeAll_writeAll`).
* The first pass itself does what it would do if the directory had been there
  (`generateFiles_of_made`).
* If the directory could not be made, it cannot be made the second time
  (`FileTree.createDirectories_again`).

1. compilers that answer alike;
2. parts of a pass that do the same;
3. one file, and all;
4. the directory;
5. two passes;
6. one type, twice;
7. a file on the way.
-/

namespace SeriesSchema

open FileTree

variable {s : Settings} {c : Compiler} {t u : FileTree}

/-! ## 1. Compilers -/

/-- A compiler whose answer depends on nothing but the arguments of a call, and that leaves the
files alone. -/
def Compiler.IsConsistent (c : Compiler) : Prop :=
  ∃ answer : List String → Answer, ∀ earlier call,
    c.start earlier call = (answer call.arguments, call.tree)

/-- A script with one answer is such a compiler. -/
theorem Compiler.isConsistent_scripted (program : String) (answer : Answer) :
    (Compiler.scripted program [answer]).IsConsistent := by
  refine ⟨fun _ => answer, fun earlier call => ?_⟩
  cases earlier with
  | nil => rfl
  | cons first more => rfl

/-! ## 2. Parts of a pass -/

/-- A part of a pass does the same on all trees that are `t` but for schema files: it comes to this
result, writes these texts, and makes calls with these arguments. -/
def Performs (t : FileTree) {α : Type} (part : State → Except Failure α × State)
    (result : Except Failure α) (writes : List (Location × String))
    (arguments : List (List String)) : Prop :=
  ∀ st, t.Rewrites st.tree → ∃ st', part st = (result, st') ∧
    st'.tree = st.tree.writeAll writes ∧ t.Rewrites st'.tree ∧
      st'.calls.map Call.arguments = st.calls.map Call.arguments ++ arguments

/-- **The compiler does the same on all trees.** -/
theorem compile_performs (hc : c.IsConsistent) (s : Settings) (t : FileTree) (schema : String) :
    ∃ verdict arguments, Performs t (compile s c schema) verdict [] arguments := by
  obtain ⟨answer, hanswer⟩ := hc
  cases henabled : s.compiler.enabled with
  | false =>
    refine ⟨.ok .skipped, [], fun st hst => ⟨st, compile_of_not_enabled henabled schema st, rfl,
      hst, ?_⟩⟩
    rw [List.append_nil]
  | true =>
    let arguments := Compiler.javaArguments s.protoOutDir s.outputJavaDir schema
    refine ⟨(judge s c.program schema (answer arguments)).1, [arguments], fun st hst => ?_⟩
    rw [compile_of_enabled henabled, hanswer]
    refine ⟨_, rfl, rfl, hst, ?_⟩
    rw [List.map_append]
    rfl

/-! ## 3. Files -/

/-- No input has the extension of schema files. -/
theorem hasExtension_proto (hext : s.fileExtension ≠ "proto") {name : FileName}
    (h : name.hasExtension s.fileExtension = true) : name.hasExtension "proto" = false := by
  rw [Bool.eq_false_iff]
  exact fun hproto => hext (FileName.hasExtension_unique h hproto)

/-- An input is no schema file, so it is read alike. -/
theorem renderFile_rewrites (hext : s.fileExtension ≠ "proto") {path : Path}
    (hpath : IsInputPath s t path) (h : t.Rewrites u) :
    renderFile s u path = renderFile s t path :=
  renderFile_congr (read_of_keeps h.keeps hpath fun dir name hinput =>
    h.elsewhere name dir (hasExtension_proto hext hinput.extension))

/-- The directory for schema files is there. -/
structure Settled (s : Settings) (t : FileTree) : Prop where
  made : t.createDirectories s.protoOutDir = (.ok (), t)
  reaches : t.Reaches (t.start s.protoOutDir) (Path.parts s.protoOutDir)

/-- Where the directory is there, writing a schema is writing its file. -/
theorem writeSchema_of_made {doc : Document}
    (h : t.createDirectories s.protoOutDir = (.ok (), u)) :
    writeSchema s doc t =
      match u.write (s.schemaPath doc) doc.render with
      | .error reason => (.error (.unwritable (s.schemaPath doc) reason), u)
      | .ok written => (.ok (s.schemaPath doc), written) := by
  rw [writeSchema, h]
  rfl

/-- What is published depends on where the path of the schema leads in the settled tree, and on
whether that is a directory. -/
theorem publish_of_settled (hsettled : Settled s t) (hext : s.fileExtension ≠ "proto")
    {path : Path} (hpath : IsInputPath s t path) {doc : Document}
    (hrender : renderFile s t path = .ok doc) (hu : t.Rewrites u) :
    publish s path u =
      match t.resolve (s.schemaPath doc) with
      | .error reason => (.error (.unwritable (s.schemaPath doc) reason), u)
      | .ok place =>
        if t.get? place = some .directory then
          (.error (.unwritable (s.schemaPath doc) .isDirectory), u)
        else (.ok doc, u.writeText place doc.render) := by
  obtain ⟨out, hwalk, hdir⟩ := hsettled.reaches
  have hmade := createDirectories_of_keeps hsettled.made hu.keeps
  have hresolve : u.resolve (s.schemaPath doc) = t.resolve (s.schemaPath doc) :=
    resolve_join_congr (namesFile_of_renderFile hrender).isName (hu.keeps.walk_start hwalk) hwalk
      (hu.keeps.directory out hdir) hdir
  rw [publish, renderFile_rewrites hext hpath hu, hrender]
  simp only [writeSchema_of_made hmade, write_eq, hresolve]
  cases t.resolve (s.schemaPath doc) with
  | error reason => rfl
  | ok place =>
    simp only [hu.directory_iff place]
    by_cases htaken : t.get? place = some .directory
    · simp only [if_pos htaken]
    · simp only [if_neg htaken]

/-- **A schema is published alike** on all trees that are the same but for schema files. -/
theorem publish_rewrites (hsettled : Settled s t) (hext : s.fileExtension ≠ "proto") {path : Path}
    (hpath : IsInputPath s t path) :
    ∃ result writes, ∀ u, t.Rewrites u →
      publish s path u = (result, u.writeAll writes) ∧ t.Rewrites (u.writeAll writes) := by
  cases hrender : renderFile s t path with
  | error failure =>
    refine ⟨.error failure, [], fun u hu => ⟨?_, hu⟩⟩
    rw [publish, renderFile_rewrites hext hpath hu, hrender]
    rfl
  | ok doc =>
    have hdoc := namesFile_of_renderFile hrender
    have hpublish := fun u hu => publish_of_settled (u := u) hsettled hext hpath hrender hu
    cases hresolve : t.resolve (s.schemaPath doc) with
    | error reason =>
      refine ⟨.error (.unwritable (s.schemaPath doc) reason), [], fun u hu => ⟨?_, hu⟩⟩
      rw [hpublish u hu, hresolve]
      rfl
    | ok place =>
      obtain ⟨dir, -, rfl⟩ := resolve_schemaPath hdoc hresolve
      by_cases htaken : t.get? (FileName.text doc.fileName :: dir) = some .directory
      · refine ⟨.error (.unwritable (s.schemaPath doc) .isDirectory), [], fun u hu => ⟨?_, hu⟩⟩
        rw [hpublish u hu, hresolve]
        exact if_pos htaken
      · refine ⟨.ok doc, [(FileName.text doc.fileName :: dir, doc.render)], fun u hu => ⟨?_, ?_⟩⟩
        · rw [hpublish u hu, hresolve]
          exact if_neg htaken
        · exact hu.writeText hdoc.hasExtension (fun h => htaken ((hu.directory_iff _).mp h))
            doc.render

theorem generateFile_performs (hsettled : Settled s t) (hext : s.fileExtension ≠ "proto")
    (hc : c.IsConsistent) {path : Path} (hpath : IsInputPath s t path) :
    ∃ result writes arguments, Performs t (generateFile s c path) result writes arguments := by
  obtain ⟨result, writes, hpublish⟩ := publish_rewrites hsettled hext hpath
  cases result with
  | error failure =>
    refine ⟨.error failure, writes, [], fun st hst => ?_⟩
    obtain ⟨hfails, hrewrites⟩ := hpublish st.tree hst
    rw [generateFile_eq, hfails]
    exact ⟨_, rfl, rfl, hrewrites, (List.append_nil _).symm⟩
  | ok doc =>
    obtain ⟨verdict, arguments, hcompile⟩ := compile_performs hc s t (s.schemaPath doc)
    refine ⟨verdict.map (⟨doc.record, s.schemaPath doc, ·⟩), writes, arguments, fun st hst => ?_⟩
    obtain ⟨hwritten, hrewrites⟩ := hpublish st.tree hst
    obtain ⟨next, hrun, htree, hnext, hcalls⟩ :=
      hcompile (st.written s path doc (st.tree.writeAll writes)) hrewrites
    rw [generateFile_eq, hwritten]
    dsimp only
    rw [hrun]
    exact ⟨next, rfl, htree, hnext, hcalls⟩

/-- **A pass over some inputs does the same** on all trees that are the same but for schema files,
once the directory for these is there. -/
theorem generateFiles_performs (hsettled : Settled s t) (hext : s.fileExtension ≠ "proto")
    (hc : c.IsConsistent) {paths : List Path} (hpaths : ∀ path ∈ paths, IsInputPath s t path) :
    ∃ result writes arguments, Performs t (generateFiles s c paths) result writes arguments := by
  induction paths with
  | nil => exact ⟨.ok [], [], [], fun st hst => ⟨st, rfl, rfl, hst, (List.append_nil _).symm⟩⟩
  | cons path paths ih =>
    obtain ⟨result, writes, arguments, hfile⟩ :=
      generateFile_performs hsettled hext hc (hpaths path List.mem_cons_self)
    obtain ⟨result', writes', arguments', hfiles⟩ :=
      ih fun other hmem => hpaths other (List.mem_cons_of_mem _ hmem)
    cases result with
    | error failure =>
      refine ⟨.error failure, writes, arguments, fun st hst => ?_⟩
      obtain ⟨next, hrun, hnext⟩ := hfile st hst
      rw [generateFiles_cons, hrun]
      exact ⟨next, rfl, hnext⟩
    | ok g =>
      refine ⟨result'.map (g :: ·), writes ++ writes', arguments ++ arguments', fun st hst => ?_⟩
      obtain ⟨next, hrun, htree, hnext, hcalls⟩ := hfile st hst
      obtain ⟨last, hrest, htree', hlast, hcalls'⟩ := hfiles next hnext
      rw [generateFiles_cons, hrun]
      dsimp only
      rw [hrest]
      refine ⟨last, rfl, ?_, hlast, ?_⟩
      · rw [htree', htree, writeAll_append]
      · rw [hcalls', hcalls, List.append_assoc]

/-! ## 4. The directory -/

/-- Once it could be made the directory is there, unless it is at the empty path and is none; then
no schema can be written. -/
theorem settled_or_of_createDirectories {doc : Document} (hdoc : doc.NamesFile)
    (h : t.createDirectories s.protoOutDir = (.ok (), u)) :
    Settled s u ∨ u = t ∧ ∃ reason, t.resolve (s.schemaPath doc) = .error reason := by
  have hmade := createDirectories_of_keeps h (.refl u)
  by_cases hempty : s.protoOutDir = ""
  · have hsame : u = t := by
      rw [hempty] at h
      exact (Prod.mk.inj h).2.symm
    subst hsame
    cases hresolve : u.resolve (s.schemaPath doc) with
    | error reason => exact Or.inr ⟨rfl, reason, rfl⟩
    | ok place =>
      obtain ⟨out, hwalk, hdir, -⟩ :=
        resolve_join_eq_ok hdoc.isName hdoc.ne_dot hdoc.ne_dots hresolve
      exact Or.inl ⟨hmade, out, hwalk, hdir⟩
  · exact Or.inl ⟨hmade, reaches_of_createDirectories hempty h⟩

/-- Making the directory hides no input, and makes none. -/
theorem isInput_addsDirectories {new : Location → Prop} (h : t.AddsDirectories u new)
    (dir : Location) (name : FileName) : IsInput s t dir name ↔ IsInput s u dir name := by
  constructor
  · rintro ⟨hname, hhidden, hextension, htaken, content, executable, hfile⟩
    exact ⟨hname, hhidden, hextension, htaken, content, executable, h.get?_eq hfile⟩
  · rintro ⟨hname, hhidden, hextension, htaken, content, executable, hfile⟩
    refine ⟨hname, hhidden, hextension, htaken, content, executable, ?_⟩
    rcases h.places (name :: dir) with heq | ⟨-, hdir, -⟩
    · exact heq ▸ hfile
    · rw [hdir] at hfile
      cases hfile

/-- Schema files are no inputs. -/
theorem isInput_rewrites (hext : s.fileExtension ≠ "proto") (h : t.Rewrites u) (dir : Location)
    (name : FileName) : IsInput s t dir name ↔ IsInput s u dir name := by
  have hsame : name.hasExtension s.fileExtension = true →
      u.get? (name :: dir) = t.get? (name :: dir) :=
    fun hextension => h.elsewhere name dir (hasExtension_proto hext hextension)
  constructor
  · rintro ⟨hname, hhidden, hextension, htaken, hfile⟩
    exact ⟨hname, hhidden, hextension, htaken, hsame hextension ▸ hfile⟩
  · rintro ⟨hname, hhidden, hextension, htaken, hfile⟩
    exact ⟨hname, hhidden, hextension, htaken, hsame hextension ▸ hfile⟩

/-- **A pass does what it would do if the directory had been there.** -/
theorem generateFiles_of_made (hext : s.fileExtension ≠ "proto") (st : State) {path : Path}
    {paths : List Path} {doc : Document} (hpath : IsInputPath s st.tree path)
    (hrender : renderFile s st.tree path = .ok doc)
    (h : st.tree.createDirectories s.protoOutDir = (.ok (), u)) :
    generateFiles s c (path :: paths) st =
      generateFiles s c (path :: paths) { st with tree := u } := by
  have hread : u.read path = st.tree.read path :=
    ((Written.refl s st.tree).addsDirectories (createDirectories_adds h)).read_input hext hpath
  have hwrite : writeSchema s doc u = writeSchema s doc st.tree := by
    rw [writeSchema_of_made h, writeSchema_of_made (createDirectories_of_keeps h (.refl u))]
  have hpublish : publish s path u = publish s path st.tree := by
    rw [publish, publish, renderFile_congr hread, hrender]
    simp only [hwrite]
  have hfile : generateFile s c path st = generateFile s c path { st with tree := u } := by
    rw [generateFile_eq, generateFile_eq]
    simp only [hpublish, State.written, readingEvents_congr hread, State.tell]
  rw [generateFiles, generateFiles, hfile]

/-! ## 5. Two passes -/

/-- A pass ends with the first file if its schema is not published. -/
theorem ends_of_publish_error {path : Path} {paths : List Path}
    (hinputs : discover s t = .ok (path :: paths)) {failure : Failure} {tree : FileTree}
    (hpublish : publish s path t = (.error failure, tree))
    {result : Except Failure (List Generated)} {st : State}
    (h : generateSchemas s c (.initial t) = (result, st)) :
    result = .error failure ∧ st.tree = tree ∧ st.calls = [] := by
  have hpublish' : publish s path (State.opening s t (path :: paths)).tree =
      (.error failure, tree) := hpublish
  rw [generateSchemas_of_discover hinputs, generateFiles_cons, generateFile_eq, hpublish'] at h
  obtain ⟨rfl, rfl⟩ := Prod.mk.inj h
  exact ⟨rfl, rfl, rfl⟩

/-- A schema is not published if the directory cannot be made. -/
theorem publish_of_unmade {path : Path} {doc : Document} (hrender : renderFile s t path = .ok doc)
    {reason : Reason} (hmade : t.createDirectories s.protoOutDir = (.error reason, u)) :
    publish s path t = (.error (.unwritable s.protoOutDir reason), u) := by
  rw [publish, hrender]
  simp only [writeSchema, hmade]

/-- The second pass after one that could not make the directory. -/
theorem generateSchemas_again_of_unmade (hext : s.fileExtension ≠ "proto") {path : Path}
    {paths : List Path} (hinputs : discover s t = .ok (path :: paths)) {doc : Document}
    (hrender : renderFile s t path = .ok doc) {reason : Reason}
    (hmade : t.createDirectories s.protoOutDir = (.error reason, u)) :
    ∃ again st', generateSchemas s c (.initial u) =
        (.error (.unwritable s.protoOutDir again), st') ∧ st'.tree = u ∧ st'.calls = [] ∧
      (again = reason ∨ reason = .alreadyExists ∧ again = .notDirectory ∧ u ≠ t ∧
        (t.Grounded → ".." ∈ Path.parts s.protoOutDir)) := by
  have hadds := createDirectories_adds hmade
  have hpath := isInputPath_of_discover hinputs path List.mem_cons_self
  have hinputs' : discover s u = .ok (path :: paths) :=
    discover_of_keeps hadds.keeps (isInput_addsDirectories hadds) hinputs
  have hrender' : renderFile s u path = .ok doc :=
    (((Written.refl s t).addsDirectories hadds).renderFile_input hext hpath).trans hrender
  obtain ⟨again, hagain, hreason⟩ := createDirectories_again hmade
  obtain ⟨hresult, htree, hcalls⟩ := ends_of_publish_error (c := c) hinputs'
    (publish_of_unmade hrender' hagain) rfl
  exact ⟨again, _, Prod.ext hresult rfl, htree, hcalls, hreason⟩

/-- The second pass after one that found the directory, or could make it. -/
theorem generateSchemas_again_of_settled (hext : s.fileExtension ≠ "proto") (hc : c.IsConsistent)
    {inputs : List Path} (hinputs : discover s t = .ok inputs) (hsettled : Settled s t)
    {result : Except Failure (List Generated)} {st : State}
    (h : generateSchemas s c (.initial t) = (result, st)) :
    ∃ st', generateSchemas s c (.initial st.tree) = (result, st') ∧ st'.tree = st.tree ∧
      st'.calls.map Call.arguments = st.calls.map Call.arguments := by
  obtain ⟨result', writes, arguments, hperforms⟩ :=
    generateFiles_performs (c := c) hsettled hext hc (isInputPath_of_discover hinputs)
  rw [generateSchemas_of_discover hinputs] at h
  obtain ⟨first, hfirst, htree, hrewrites, hcalls⟩ :=
    hperforms (.opening s t inputs) (.refl t)
  rw [hfirst] at h
  obtain ⟨rfl, rfl⟩ := Prod.mk.inj h
  have hinputs' : discover s first.tree = .ok inputs :=
    discover_of_keeps hrewrites.keeps (isInput_rewrites hext hrewrites) hinputs
  obtain ⟨second, hsecond, htree', -, hcalls'⟩ :=
    hperforms (.opening s first.tree inputs) hrewrites
  refine ⟨second, ?_, ?_, hcalls'.trans hcalls.symm⟩
  · rw [generateSchemas_of_discover hinputs', hsecond]
  · rw [htree', htree]
    exact writeAll_writeAll t writes

/-- **How a pass that changes the tree begins**: it reads a file, and then either cannot make the
directory, which ends it, or does what it would do if the directory had been there. -/
theorem settles_of_changed (hext : s.fileExtension ≠ "proto")
    {result : Except Failure (List Generated)} {st : State}
    (h : generateSchemas s c (.initial t) = (result, st)) (hchanged : st.tree ≠ t) :
    (∃ path paths doc reason, discover s t = .ok (path :: paths) ∧
      renderFile s t path = .ok doc ∧
      t.createDirectories s.protoOutDir = (.error reason, st.tree) ∧
      result = .error (.unwritable s.protoOutDir reason) ∧ st.calls = []) ∨
    ∃ inputs u, discover s u = .ok inputs ∧ Settled s u ∧
      generateSchemas s c (.initial u) = (result, st) := by
  cases hinputs : discover s t with
  | error failure =>
    rw [generateSchemas] at h
    simp only [State.initial, hinputs] at h
    exact absurd (congrArg State.tree (Prod.mk.inj h).2).symm hchanged
  | ok inputs =>
    cases inputs with
    | nil =>
      rw [generateSchemas_of_discover hinputs] at h
      exact absurd (congrArg State.tree (Prod.mk.inj h).2).symm hchanged
    | cons path paths =>
      have hpath := isInputPath_of_discover hinputs path List.mem_cons_self
      cases hrender : renderFile s t path with
      | error failure =>
        have hpublish : publish s path t = (.error failure, t) := by rw [publish, hrender]
        exact absurd (ends_of_publish_error hinputs hpublish h).2.1 hchanged
      | ok doc =>
        obtain ⟨made, u, hmade⟩ : ∃ made u, t.createDirectories s.protoOutDir = (made, u) :=
          ⟨_, _, rfl⟩
        cases made with
        | error reason =>
          obtain ⟨hresult, htree, hcalls⟩ :=
            ends_of_publish_error hinputs (publish_of_unmade hrender hmade) h
          exact Or.inl ⟨path, paths, doc, reason, rfl, hrender, htree ▸ hmade, hresult, hcalls⟩
        | ok =>
          rcases settled_or_of_createDirectories (namesFile_of_renderFile hrender) hmade with
            hsettled | ⟨rfl, reason, hresolve⟩
          · have hadds := createDirectories_adds hmade
            have hinputs' : discover s u = .ok (path :: paths) :=
              discover_of_keeps hadds.keeps (isInput_addsDirectories hadds) hinputs
            have hopening : generateFiles s c (path :: paths) (.opening s t (path :: paths)) =
                generateFiles s c (path :: paths) (.opening s u (path :: paths)) :=
              generateFiles_of_made hext (.opening s t (path :: paths)) hpath hrender hmade
            refine Or.inr ⟨path :: paths, u, hinputs', hsettled, ?_⟩
            rw [generateSchemas_of_discover hinputs', ← hopening,
              ← generateSchemas_of_discover hinputs, h]
          · -- nothing can be written, and nothing had to be made
            have hpublish : publish s path u =
                (.error (.unwritable (s.schemaPath doc) reason), u) := by
              rw [publish, hrender]
              simp only [writeSchema_of_made hmade, write_eq, hresolve]
            exact absurd (ends_of_publish_error hinputs hpublish h).2.1 hchanged

/-- **A second pass changes nothing.**  On the tree that a pass has left, whether or not it failed,
another one comes to the same result or the same failure, makes calls with the same arguments, and
leaves the tree as it is.

There is one exception.  If a file is in the place of a directory on the way to the schema files,
and came into sight only when the first pass had made directories, then the first pass was told that
it exists, and the second one may be told that it is no directory.  Unless the tree has gaps, the
path to the schema files goes up somewhere. -/
theorem generateSchemas_again (hext : s.fileExtension ≠ "proto") (hc : c.IsConsistent)
    {result : Except Failure (List Generated)} {st : State}
    (h : generateSchemas s c (.initial t) = (result, st)) :
    ∃ result' st', generateSchemas s c (.initial st.tree) = (result', st') ∧
      st'.tree = st.tree ∧ st'.calls.map Call.arguments = st.calls.map Call.arguments ∧
      (result' = result ∨
        result = .error (.unwritable s.protoOutDir .alreadyExists) ∧
          result' = .error (.unwritable s.protoOutDir .notDirectory) ∧ st.tree ≠ t ∧
            (t.Grounded → ".." ∈ Path.parts s.protoOutDir)) := by
  by_cases hchanged : st.tree = t
  · rw [hchanged]
    exact ⟨result, st, h, hchanged, rfl, Or.inl rfl⟩
  rcases settles_of_changed hext h hchanged with
    ⟨path, paths, doc, reason, hinputs, hrender, hmade, rfl, hcalls⟩ |
    ⟨inputs, u, hinputs, hsettled, hfirst⟩
  · obtain ⟨again, st', hsecond, htree, hcalls', hreason⟩ :=
      generateSchemas_again_of_unmade (c := c) hext hinputs hrender hmade
    refine ⟨.error (.unwritable s.protoOutDir again), st', hsecond, htree,
      by rw [hcalls, hcalls'], ?_⟩
    rcases hreason with rfl | ⟨rfl, rfl, hmore⟩
    · exact Or.inl rfl
    · exact Or.inr ⟨rfl, rfl, hmore⟩
  · obtain ⟨st', hsecond, htree, hcalls⟩ :=
      generateSchemas_again_of_settled hext hc hinputs hsettled hfirst
    exact ⟨result, st', hsecond, htree, hcalls, Or.inl rfl⟩

/-! ## 6. One type, twice

Two files define types of one name, so the second schema is written over the first one.  The second
pass writes both again. -/

namespace OneName

/-- What the directory of the inputs holds. -/
def items : List (FileName × Entry) :=
  [("A.java", .file (.text "interface Bar {}") false),
    ("B.java", .file (.text "package p; interface Bar { int depth; }") false)]

/-- A tree with nothing else. -/
def tree : FileTree :=
  items.foldl (fun t item => t.put [item.1, "in"] item.2) (.empty [])

/-- A compiler that always fails. -/
def compiler : Compiler :=
  .scripted "protoc" [.ended ⟨some 1⟩]

/-- What comes of the two files. -/
def results : List Generated :=
  [⟨"Bar", "in/out/BarSeries.proto", .failed ⟨some 1⟩⟩,
    ⟨"Bar", "in/out/BarSeries.proto", .failed ⟨some 1⟩⟩]

theorem discovers : discover TwoFiles.settings tree = .ok ["in/A.java", "in/B.java"] := by
  have hitems : tree.list TwoFiles.settings.inputDir = .ok items := by decide +kernel
  have hnames : (items.map Prod.fst).filter (TwoFiles.settings.selects tree) =
      (["A.java", "B.java"] : List FileName) := by
    decide +kernel
  exact discover_of_pairwise hitems hnames (by decide +kernel)

theorem succeeds :
    (generateSchemas TwoFiles.settings compiler (.initial tree)).1 = .ok results := by
  rw [generateSchemas]
  simp only [State.initial, discovers]
  decide +kernel

end OneName

theorem generateSchemas_again_oneName :
    TwoFiles.settings.fileExtension ≠ "proto" ∧ OneName.compiler.IsConsistent ∧
    ∃ st, generateSchemas TwoFiles.settings OneName.compiler (.initial OneName.tree) =
        (.ok OneName.results, st) ∧
      ∃ st', generateSchemas TwoFiles.settings OneName.compiler (.initial st.tree) =
          (.ok OneName.results, st') ∧
        st'.tree = st.tree ∧ st'.calls.map Call.arguments = st.calls.map Call.arguments := by
  have hext : TwoFiles.settings.fileExtension ≠ "proto" := by decide
  have hc : OneName.compiler.IsConsistent := Compiler.isConsistent_scripted _ _
  have hrun : generateSchemas TwoFiles.settings OneName.compiler (.initial OneName.tree) =
      (.ok OneName.results, _) := Prod.ext OneName.succeeds rfl
  obtain ⟨result, st', hsecond, htree, hcalls, hresult⟩ :=
    generateSchemas_again hext hc hrun
  refine ⟨hext, hc, _, hrun, st', ?_, htree, hcalls⟩
  rcases hresult with rfl | ⟨hfailure, -⟩
  · exact hsecond
  · cases hfailure

/-! ## 7. A file on the way

The schema files are to go below a file, which the path reaches over a directory that is yet to be
made.  The tree has no gaps, which can be seen from its entries. -/

theorem FileTree.grounded_iff {t : FileTree} :
    t.Grounded ↔
      ∀ place ∈ t.entries.map Prod.fst, place ≠ [] → t.get? place.tail = some .directory := by
  have hget : ∀ name above, t.get? (name :: above) ≠ none ↔
      name :: above ∈ t.entries.map Prod.fst := by
    intro name above
    rw [get?, if_neg (List.cons_ne_nil name above), ← isSome_find?_iff, Option.isSome_iff_ne_none]
  constructor
  · intro h place hmem hroot
    obtain ⟨name, above, rfl⟩ := List.exists_cons_of_ne_nil hroot
    exact h name above ((hget name above).mpr hmem)
  · intro h name above hsome
    exact h (name :: above) ((hget name above).mp hsome) (List.cons_ne_nil name above)

instance (t : FileTree) : Decidable t.Grounded :=
  decidable_of_iff _ grounded_iff.symm

namespace FileOnTheWay

/-- The settings: the path goes up from a directory that is not there. -/
def settings : Settings :=
  { inputDir := "in", protoOutDir := "new/../stop/out", extractor := .declaration }

/-- What the directory of the inputs holds. -/
def items : List (FileName × Entry) :=
  [("A.java", .file (.text "interface Bar {}") false)]

/-- A tree with a file that is on the way to the schema files. -/
def tree : FileTree :=
  ((FileTree.empty []).put ["A.java", "in"] (.file (.text "interface Bar {}") false)).put ["stop"]
    (.file (.text "") false)

/-- The pass on a tree whose only input is the file. -/
def pass (t : FileTree) : Except Failure (List Generated) × State :=
  generateFiles settings OneName.compiler ["in/A.java"] (.opening settings t ["in/A.java"])

theorem generateSchemas_eq_pass {t : FileTree} (h : t.list settings.inputDir = .ok items)
    (hnames : (items.map Prod.fst).filter (settings.selects t) =
      (["A.java"] : List FileName)) :
    generateSchemas settings OneName.compiler (.initial t) = pass t :=
  generateSchemas_of_discover (discover_of_pairwise h hnames (by decide +kernel))

end FileOnTheWay

/-- The exception: that the file exists is not what the second pass is told. -/
theorem generateSchemas_again_fileOnTheWay :
    FileOnTheWay.settings.fileExtension ≠ "proto" ∧ OneName.compiler.IsConsistent ∧
    FileOnTheWay.tree.Grounded ∧
    ∃ st st', generateSchemas FileOnTheWay.settings OneName.compiler (.initial FileOnTheWay.tree) =
        (.error (.unwritable "new/../stop/out" .alreadyExists), st) ∧
      generateSchemas FileOnTheWay.settings OneName.compiler (.initial st.tree) =
        (.error (.unwritable "new/../stop/out" .notDirectory), st') := by
  have hlist : FileOnTheWay.tree.list FileOnTheWay.settings.inputDir = .ok FileOnTheWay.items := by
    decide +kernel
  have hlist' : (FileOnTheWay.pass FileOnTheWay.tree).2.tree.list FileOnTheWay.settings.inputDir =
      .ok FileOnTheWay.items := by
    decide +kernel
  have hfirst : (FileOnTheWay.pass FileOnTheWay.tree).1 =
      .error (.unwritable "new/../stop/out" .alreadyExists) := by
    decide +kernel
  have hsecond : (FileOnTheWay.pass (FileOnTheWay.pass FileOnTheWay.tree).2.tree).1 =
      .error (.unwritable "new/../stop/out" .notDirectory) := by
    decide +kernel
  have hgrounded : FileOnTheWay.tree.Grounded := by decide +kernel
  refine ⟨by decide, Compiler.isConsistent_scripted _ _, hgrounded,
    (FileOnTheWay.pass FileOnTheWay.tree).2,
    (FileOnTheWay.pass (FileOnTheWay.pass FileOnTheWay.tree).2.tree).2, ?_, ?_⟩
  · rw [FileOnTheWay.generateSchemas_eq_pass hlist (by decide +kernel)]
    exact Prod.ext hfirst rfl
  · rw [FileOnTheWay.generateSchemas_eq_pass hlist' (by decide +kernel)]
    exact Prod.ext hsecond rfl

end SeriesSchema
