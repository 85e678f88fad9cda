import SeriesSchema.Proofs.SchemaFiles

/-!
# Whose schema a file holds

A schema file is named after a type, and the type is read from a text.  Nothing keeps two texts from
declaring types of one name, and then the schema that is written last takes the place of the other
(`generateSchemas_replaces`).  What does hold is that this is the only way in which the pass itself
loses a schema:

* two results have the same path exactly if they have the same type, whatever the compiler does
  (`schema_eq_iff`);
* at the end, the file at a path holds the schema of the last input with its type
  (`HoldsLast.generateFiles`).

The second statement needs a word about the compiler, which could remove a schema as well.  It need
not leave the tree alone: when it is called in the pass it may add files and change others, other
schema files among them, as long as it spares the directories, the inputs and the schemas of the
pass (`Compiler.Spares`).  What it would do in other calls does not matter.  So the invariant is a
weaker one than `Written`, and each step of the pass is a step of `Written` from the tree before it.

1. paths and types;
2. compilers that spare what a pass relies on;
3. the invariant;
4. the passes;
5. two classes.
-/

namespace SeriesSchema

open FileTree

variable {s : Settings} {c : Compiler}

/-! ## 1. Paths and types -/

/-- The name of a schema file is the type's name with an ending. -/
structure Document.NamesType (doc : Document) : Prop extends doc.NamesFile where
  fileName : doc.fileName = doc.record ++ "Series.proto"

theorem namesType_of_renderFile {t : FileTree} {path : Path} {doc : Document}
    (h : renderFile s t path = .ok doc) : doc.NamesType := by
  have hname := namesFile_of_renderFile h
  obtain ⟨source, d, -, -, rfl⟩ := renderFile_eq_ok h
  exact ⟨hname, fileName_ofDefinition d s.javaPackage⟩

/-- Schemas share a path exactly if they share a type. -/
theorem schemaPath_eq_iff {doc other : Document} (h : doc.NamesType) (hother : other.NamesType) :
    s.schemaPath other = s.schemaPath doc ↔ other.record = doc.record := by
  constructor
  · intro heq
    have hnames : other.fileName = doc.fileName := Path.join_inj hother.isName h.isName heq
    rw [h.fileName, hother.fileName, ← String.toList_inj, String.toList_append,
      String.toList_append] at hnames
    exact String.toList_inj.mp (List.append_cancel_right hnames)
  · intro heq
    rw [Settings.schemaPath, Settings.schemaPath, h.fileName, hother.fileName, heq]

/-- A result is that of a document: it names its record and the path of its schema. -/
def Generated.IsOf (s : Settings) (g : Generated) (doc : Document) : Prop :=
  g.type = doc.record ∧ g.schema = s.schemaPath doc

/-- A file that is handled with success gives the result of its document. -/
theorem isOf_of_generateFile {path : Path} {st st' : State} {g : Generated}
    (h : generateFile s c path st = (.ok g, st')) : ∃ doc, doc.NamesType ∧ g.IsOf s doc := by
  obtain ⟨doc, _, _, hrender, -, -, rfl⟩ := generateFile_eq_ok h
  exact ⟨doc, namesType_of_renderFile hrender, rfl, rfl⟩

/-- A pass that succeeds has a result for each of its files, whatever the compiler does. -/
theorem isOf_of_generateFiles {paths : List Path} {st st' : State} {gs : List Generated}
    (h : generateFiles s c paths st = (.ok gs, st')) :
    gs.length = paths.length ∧ ∀ g ∈ gs, ∃ doc, doc.NamesType ∧ g.IsOf s doc := by
  induction paths generalizing st gs with
  | nil =>
    obtain ⟨hgs, -⟩ := Prod.mk.inj h
    obtain rfl := Except.ok.inj hgs
    simp
  | cons path paths ih =>
    obtain ⟨g, more, next, hfile, hfiles, rfl⟩ := generateFiles_cons_eq_ok.mp h
    obtain ⟨hlength, hmore⟩ := ih hfiles
    refine ⟨by simp [hlength], fun other hmem => ?_⟩
    rcases List.mem_cons.mp hmem with rfl | hmem
    · exact isOf_of_generateFile hfile
    · exact hmore other hmem

/-- **Two results share a path exactly if they share a type.** -/
theorem schema_eq_iff {g g' : Generated} (h : ∃ doc, doc.NamesType ∧ g.IsOf s doc)
    (h' : ∃ doc, doc.NamesType ∧ g'.IsOf s doc) : g.schema = g'.schema ↔ g.type = g'.type := by
  obtain ⟨doc, hdoc, htype, hschema⟩ := h
  obtain ⟨doc', hdoc', htype', hschema'⟩ := h'
  rw [htype, hschema, htype', hschema']
  exact schemaPath_eq_iff hdoc' hdoc

/-! ## 2. Compilers that spare -/

/-- Whether a place is that of an input. -/
def StandsAsInput (s : Settings) (t : FileTree) (place : Location) : Prop :=
  ∃ dir name, t.walk (t.start s.inputDir) (Path.parts s.inputDir) = .ok dir ∧
    IsInput s t dir name ∧ place = name :: dir

/-- The later tree has what a pass that began on `t` relies on of the earlier one: the directories,
the inputs, and the texts at the paths of its schemas. -/
structure Spared (s : Settings) (t : FileTree) (schemas : List String)
    (before after : FileTree) : Prop where
  keeps : before.Keeps after
  input : ∀ place, StandsAsInput s t place → after.get? place = before.get? place
  schema : ∀ path ∈ schemas, ∀ text, before.read path = .ok text → after.read path = .ok text

protected theorem Spared.refl (s : Settings) (t : FileTree) (schemas : List String)
    (tree : FileTree) : Spared s t schemas tree tree :=
  ⟨.refl tree, fun _ _ => rfl, fun _ _ _ h => h⟩

/-- A compiler that spares, in each of these calls, what a pass relies on that began on `t` and has
these schemas.  It may do anything else to the tree. -/
def Compiler.Spares (s : Settings) (c : Compiler) (t : FileTree) (schemas : List String)
    (calls : List Call) : Prop :=
  ∀ earlier call, earlier ++ [call] <+: calls →
    Spared s t schemas call.tree (c.start earlier call).2

/-- A compiler that leaves the files alone spares them. -/
theorem Compiler.LeavesTree.spares (hc : c.LeavesTree) (s : Settings) (t : FileTree)
    (schemas : List String) (calls : List Call) : c.Spares s t schemas calls := by
  intro earlier call _
  rw [hc]
  exact .refl s t schemas call.tree

/-- Compiling changes no more than the call that is made. -/
theorem spared_compile {t : FileTree} {schemas : List String} {calls : List Call}
    (hc : c.Spares s t schemas calls) {schema : String} {st st' : State}
    {verdict : Except Failure Outcome} (h : compile s c schema st = (verdict, st'))
    (hcalls : st'.calls <+: calls) : Spared s t schemas st.tree st'.tree := by
  cases henabled : s.compiler.enabled with
  | false =>
    rw [compile_of_not_enabled henabled] at h
    rw [← (Prod.mk.inj h).2]
    exact .refl s t schemas st.tree
  | true =>
    rw [compile_of_enabled henabled] at h
    obtain ⟨-, rfl⟩ := Prod.mk.inj h
    exact hc st.calls (s.callFor schema st.tree) hcalls

/-- What is an input on one tree is one on a tree with the same directories and the same file. -/
theorem StandsAsInput.of_keeps {t u : FileTree} {place : Location} (h : StandsAsInput s t place)
    (hkeeps : t.Keeps u) (hsame : u.get? place = t.get? place) : StandsAsInput s u place := by
  obtain ⟨dir, name, hwalk, hinput, rfl⟩ := h
  refine ⟨dir, name, hkeeps.walk_start hwalk, ?_, rfl⟩
  obtain ⟨content, executable, hfile⟩ := hinput.file
  exact ⟨hinput.isName, hinput.notHidden, hinput.extension, hinput.taken, content, executable,
    hsame.trans hfile⟩

/-! ## 3. The invariant -/

/-- The last of some documents whose schema has a path. -/
def lastAt (s : Settings) (docs : List Document) (path : String) : Option Document :=
  docs.reverse.find? fun doc => s.schemaPath doc = path

theorem lastAt_concat (docs : List Document) (doc : Document) (path : String) :
    lastAt s (docs ++ [doc]) path =
      if s.schemaPath doc = path then some doc else lastAt s docs path := by
  unfold lastAt
  rw [List.reverse_append, List.reverse_singleton, List.singleton_append, List.find?_cons]
  by_cases h : s.schemaPath doc = path
  · simp [h]
  · simp [h]

theorem lastAt_eq_some {docs : List Document} {doc : Document} {path : String}
    (h : lastAt s docs path = some doc) : doc ∈ docs ∧ s.schemaPath doc = path := by
  constructor
  · exact List.mem_reverse.mp (List.mem_of_find?_eq_some h)
  · simpa using List.find?_some h

/-- A document is the last at its path if the later ones have other paths. -/
theorem lastAt_append_cons {earlier later : List Document} {doc : Document}
    (h : ∀ other ∈ later, s.schemaPath other ≠ s.schemaPath doc) :
    lastAt s (earlier ++ doc :: later) (s.schemaPath doc) = some doc := by
  have hlater :
      later.reverse.find? (fun other => s.schemaPath other = s.schemaPath doc) = none := by
    rw [List.find?_eq_none]
    intro other hmem
    simpa using h other (List.mem_reverse.mp hmem)
  unfold lastAt
  rw [List.reverse_append, List.reverse_cons, List.append_assoc, List.find?_append, hlater]
  simp

/-- What is true of a tree after a pass that has written the schemas `docs`, in this order, on a
tree with a compiler that may have changed it in between.  The paths of these schemas are among
`schemas`. -/
structure HoldsLast (s : Settings) (schemas : List String) (before after : FileTree)
    (docs : List Document) : Prop where
  /-- each schema is named after its type -/
  names : ∀ doc ∈ docs, doc.NamesType
  among : ∀ doc ∈ docs, s.schemaPath doc ∈ schemas
  /-- directories stay -/
  keeps : before.Keeps after
  /-- inputs stay -/
  input : ∀ place, StandsAsInput s before place → after.get? place = before.get? place
  /-- a path holds what was written to it last -/
  text : ∀ path doc, lastAt s docs path = some doc → after.read path = .ok doc.render

/-- Texts at other paths stay when schemas are written. -/
theorem Written.read_other {before after : FileTree} {docs : List Document}
    (h : Written s before after docs) {other : Document} (hother : other.NamesFile)
    (hne : ∀ doc ∈ docs, s.schemaPath doc ≠ s.schemaPath other) {text : String}
    (hread : before.read (s.schemaPath other) = .ok text) :
    after.read (s.schemaPath other) = .ok text := by
  refine h.keeps.read_eq_ok hread fun place entry hresolve hget => ?_
  rcases h.frame place with heq | ⟨hnone, -, -⟩ | ⟨doc, hmem, hplace⟩
  · rw [heq, hget]
  · rw [hget] at hnone
    cases hnone
  · exact absurd rfl (place_ne_of_schemaPath_ne (h.names doc hmem) hother (hne doc hmem) hplace
      (h.keeps.resolve hresolve))

namespace HoldsLast

variable {schemas : List String} {before after next : FileTree} {docs : List Document}
  {st st' : State}

protected theorem refl (s : Settings) (schemas : List String) (t : FileTree) :
    HoldsLast s schemas t t [] :=
  ⟨by simp, by simp, .refl t, fun _ _ => rfl, fun _ _ h => by cases h⟩

/-- Inputs are still read as they were at first. -/
theorem renderFile_input (h : HoldsLast s schemas before after docs) {path : Path}
    (hpath : IsInputPath s before path) : renderFile s after path = renderFile s before path := by
  obtain ⟨dir, name, hwalk, hdir, hinput, rfl⟩ := hpath
  have hsame := h.input (name :: dir) ⟨dir, name, hwalk, hinput, rfl⟩
  exact renderFile_congr (read_input_congr h.keeps hwalk hdir hinput hsame)

/-- One more schema is written: it is the last at its path, and at other paths nothing changes. -/
theorem written (h : HoldsLast s schemas before after docs) (hext : s.fileExtension ≠ "proto")
    {doc : Document} (hdoc : doc.NamesType) (hpath : s.schemaPath doc ∈ schemas)
    (hwritten : Written s after next [doc]) : HoldsLast s schemas before next (docs ++ [doc]) := by
  refine ⟨?_, ?_, h.keeps.trans hwritten.keeps, fun place hplace => ?_, fun path last hlast => ?_⟩
  · exact List.forall_mem_append.mpr ⟨h.names, by simpa using hdoc⟩
  · exact List.forall_mem_append.mpr ⟨h.among, by simpa using hpath⟩
  · have hsame := h.input place hplace
    obtain ⟨dir, name, -, hinput, rfl⟩ := hplace.of_keeps h.keeps hsame
    exact (hwritten.input hext hinput).trans hsame
  · rw [lastAt_concat] at hlast
    split at hlast
    · rename_i hpath
      obtain rfl := Option.some.inj hlast
      rw [← hpath]
      exact hwritten.text [] doc [] rfl (by simp)
    · rename_i hpath
      obtain ⟨hmem, rfl⟩ := lastAt_eq_some hlast
      refine hwritten.read_other (h.names last hmem).toNamesFile (fun other hother => ?_)
        (h.text _ last hlast)
      rw [List.mem_singleton.mp hother]
      exact hpath

/-- The compiler has been called. -/
theorem spared (h : HoldsLast s schemas before after docs)
    (hspared : Spared s before schemas after next) : HoldsLast s schemas before next docs := by
  refine ⟨h.names, h.among, h.keeps.trans hspared.keeps, fun place hplace => ?_,
    fun path doc hlast => ?_⟩
  · exact (hspared.input place hplace).trans (h.input place hplace)
  · obtain ⟨hmem, rfl⟩ := lastAt_eq_some hlast
    exact hspared.schema _ (h.among doc hmem) _ (h.text _ doc hlast)

/-! ## 4. The passes -/

/-- **The step**: a file that is handled with success adds its schema. -/
theorem generateFile {calls : List Call} (h : HoldsLast s schemas before st.tree docs)
    (hc : c.Spares s before schemas calls) (hext : s.fileExtension ≠ "proto") {path : Path}
    {g : Generated} (hrun : generateFile s c path st = (.ok g, st'))
    (hcalls : st'.calls <+: calls) (hg : g.schema ∈ schemas) :
    ∃ doc, renderFile s st.tree path = .ok doc ∧ g.type = doc.record ∧
      g.schema = s.schemaPath doc ∧ HoldsLast s schemas before st'.tree (docs ++ [doc]) := by
  obtain ⟨doc, tree, _, hrender, hwrite, hcompile, rfl⟩ := generateFile_eq_ok hrun
  have hone : Written s st.tree tree [doc] :=
    (Written.refl s st.tree).writeSchema (namesFile_of_renderFile hrender) hwrite
  have hholds := h.written hext (namesType_of_renderFile hrender) hg hone
  exact ⟨doc, hrender, rfl, rfl, hholds.spared (spared_compile hc hcompile hcalls)⟩

/-- **The run**: a pass over some inputs that succeeds adds the schemas of the inputs as they were
at first, in this order. -/
theorem generateFiles {gs : List Generated}
    (h : HoldsLast s (gs.map Generated.schema) before st.tree docs)
    (hc : c.Spares s before (gs.map Generated.schema) st'.calls)
    (hext : s.fileExtension ≠ "proto") {paths : List Path}
    (hpaths : ∀ path ∈ paths, IsInputPath s before path)
    (hrun : generateFiles s c paths st = (.ok gs, st')) :
    ∃ more, List.Forall₂ (fun path doc => renderFile s before path = .ok doc) paths more ∧
      List.Forall₂ (fun doc g => g.IsOf s doc) more gs ∧
        HoldsLast s (gs.map Generated.schema) before st'.tree (docs ++ more) :=
  generateFiles_carries (fun hholds _ hmem => hholds.renderFile_input (hpaths _ hmem))
    (fun hholds hfile hcalls hg =>
      hholds.generateFile hc hext hfile hcalls (List.mem_map_of_mem hg))
    h hrun List.prefix_rfl (List.Subset.refl gs)

end HoldsLast

theorem map_type_eq {docs : List Document} {gs : List Generated}
    (h : List.Forall₂ (fun doc g => g.IsOf s doc) docs gs) :
    gs.map Generated.type = docs.map Document.record := by
  induction h with
  | nil => rfl
  | cons hfirst _ ih => rw [List.map_cons, List.map_cons, hfirst.1, ih]

theorem map_schema_eq {docs : List Document} {gs : List Generated}
    (h : List.Forall₂ (fun doc g => g.IsOf s doc) docs gs) :
    gs.map Generated.schema = docs.map s.schemaPath := by
  induction h with
  | nil => rfl
  | cons hfirst _ ih => rw [List.map_cons, List.map_cons, hfirst.2, ih]

/-- Documents with different records have results with different paths. -/
theorem nodup_schema {docs : List Document} {gs : List Generated}
    (hnames : ∀ doc ∈ docs, doc.NamesType)
    (hgenerated : List.Forall₂ (fun doc g => g.IsOf s doc) docs gs)
    (hnodup : (docs.map Document.record).Nodup) : (gs.map Generated.schema).Nodup := by
  rw [map_schema_eq hgenerated]
  rw [List.Nodup, List.pairwise_map] at hnodup ⊢
  exact hnodup.imp_of_mem fun hdoc hother hne heq =>
    hne ((schemaPath_eq_iff (hnames _ hother) (hnames _ hdoc)).mp heq)

/-- **Whose schema a file holds, after a pass that succeeds.**  There is one result for each input,
and two results share their path exactly if they share their type.  If the compiler spares the
directories, the inputs and the schemas of the pass in its calls, then each path holds the schema of
the last input with its type; so if the types are all different, no path is shared, and each holds
the schema of its own input. -/
theorem generateSchemas_schemas (hext : s.fileExtension ≠ "proto") {t : FileTree}
    {gs : List Generated} {st' : State}
    (h : generateSchemas s c (.initial t) = (.ok gs, st')) :
    ∃ inputs, discover s t = .ok inputs ∧ gs.length = inputs.length ∧
      (∀ g ∈ gs, ∀ g' ∈ gs, g.schema = g'.schema ↔ g.type = g'.type) ∧
      (c.Spares s t (gs.map Generated.schema) st'.calls → ∃ docs,
        List.Forall₂ (fun path doc => renderFile s t path = .ok doc) inputs docs ∧
        List.Forall₂ (fun doc g => g.IsOf s doc) docs gs ∧
        (∀ earlier doc later, docs = earlier ++ doc :: later →
          (∀ other ∈ later, other.record ≠ doc.record) →
            st'.tree.read (s.schemaPath doc) = .ok doc.render) ∧
        ((docs.map Document.record).Nodup →
          (gs.map Generated.schema).Nodup ∧
            ∀ doc ∈ docs, st'.tree.read (s.schemaPath doc) = .ok doc.render)) := by
  cases hinputs : discover s t with
  | error failure =>
    rw [generateSchemas_of_discover_error hinputs] at h
    cases (Prod.mk.inj h).1
  | ok inputs =>
    rw [generateSchemas_of_discover hinputs] at h
    obtain ⟨hlength, hresults⟩ := isOf_of_generateFiles h
    refine ⟨inputs, rfl, hlength,
      fun g hg g' hg' => schema_eq_iff (hresults g hg) (hresults g' hg'), fun hc => ?_⟩
    obtain ⟨docs, hrenders, hgenerated, hholds⟩ :=
      (HoldsLast.refl s _ t).generateFiles hc hext (isInputPath_of_discover hinputs) h
    rw [List.nil_append] at hholds
    have hlast : ∀ earlier doc later, docs = earlier ++ doc :: later →
        (∀ other ∈ later, other.record ≠ doc.record) →
          st'.tree.read (s.schemaPath doc) = .ok doc.render := by
      intro earlier doc later hdocs hlater
      have hdoc := hholds.names doc (by simp [hdocs])
      refine hholds.text _ doc ?_
      rw [hdocs]
      refine lastAt_append_cons fun other hmem heq => hlater other hmem ?_
      exact (schemaPath_eq_iff hdoc (hholds.names other (by simp [hdocs, hmem]))).mp heq
    refine ⟨docs, hrenders, hgenerated, hlast, fun hnodup => ⟨?_, fun doc hmem => ?_⟩⟩
    · exact nodup_schema hholds.names hgenerated hnodup
    · obtain ⟨earlier, later, hdocs⟩ := List.append_of_mem hmem
      refine hlast earlier doc later hdocs fun other hother heq => ?_
      rw [hdocs, List.map_append, List.map_cons] at hnodup
      have hnot := (List.nodup_cons.mp (List.nodup_append.mp hnodup).2.1).1
      exact hnot (heq ▸ List.mem_map_of_mem hother)

/-! ## 5. Two classes

A directory holds the texts of two classes; the first is `Bar`, the second is given. -/

namespace TwoClasses

def settings : Settings :=
  { inputDir := "in", protoOutDir := "out", extractor := .declaration }

/-- What the directory of the inputs holds. -/
def items (second : String) : List (FileName × Entry) :=
  [("A.java", .file (.text "class Bar { int a; }") false),
    ("B.java", .file (.text second) false)]

/-- A tree with nothing else. -/
def tree (second : String) : FileTree :=
  (items second).foldl (fun t item => t.put [item.1, "in"] item.2) (.empty [])

/-- A compiler that succeeds. -/
def compiler : Compiler :=
  .scripted "protoc" []

/-- A compiler that succeeds and writes a file of its own, which lies beside the schemas and has
their extension. -/
def keeper : Compiler :=
  { compiler with start := fun earlier call =>
      ((compiler.start earlier call).1,
        (call.tree.write "out/Log.proto" "").toOption.getD call.tree) }

/-- A compiler that succeeds and removes the schemas that it finds. -/
def remover : Compiler :=
  { compiler with start := fun earlier call =>
      ((compiler.start earlier call).1, call.tree.remove ["out"]) }

/-- Second texts: a class with the name of the first, and one with another name. -/
def seconds : List String :=
  ["class Bar { int b; }", "class Quote { int b; }"]

theorem discovers : ∀ second ∈ seconds,
    discover settings (tree second) = .ok ["in/A.java", "in/B.java"] := by
  have hitems : ∀ second ∈ seconds,
      (tree second).list settings.inputDir = .ok (items second) := by decide +kernel
  have hnames : ∀ second ∈ seconds,
      ((items second).map Prod.fst).filter (settings.selects (tree second)) =
        (["A.java", "B.java"] : List FileName) := by
    decide +kernel
  intro second hsecond
  exact discover_of_pairwise (hitems second hsecond) (hnames second hsecond) (by decide +kernel)

/-- The tree with two classes of one name. -/
def same : FileTree := tree "class Bar { int b; }"

/-- The tree with two classes of different names. -/
def different : FileTree := tree "class Quote { int b; }"

theorem pass_same (c : Compiler) : generateSchemas settings c (.initial same) =
    generateFiles settings c ["in/A.java", "in/B.java"]
      (.opening settings same ["in/A.java", "in/B.java"]) :=
  generateSchemas_of_discover (discovers _ (by decide))

theorem pass_different (c : Compiler) : generateSchemas settings c (.initial different) =
    generateFiles settings c ["in/A.java", "in/B.java"]
      (.opening settings different ["in/A.java", "in/B.java"]) :=
  generateSchemas_of_discover (discovers _ (by decide))

/-- What comes of the two texts, if the second type has this name. -/
def results (second : String) : List Generated :=
  [⟨"Bar", "out/BarSeries.proto", .succeeded⟩,
    ⟨second, Path.join "out" (second ++ "Series.proto"), .succeeded⟩]

/-- The schema of the first class. -/
def bar : Document :=
  .ofDefinition ⟨"Bar", ["a"]⟩ settings.javaPackage

/-- The file of its own is no input and none of the schemas, whatever the tree is. -/
theorem spares_keeper (t : FileTree) (calls : List Call) :
    keeper.Spares settings t ((results "Quote").map Generated.schema) calls := by
  intro earlier call _
  cases hwrite : call.tree.write "out/Log.proto" "" with
  | error reason =>
    have hsame : (keeper.start earlier call).2 = call.tree := by
      simp [keeper, hwrite, Except.toOption]
    rw [hsame]
    exact .refl ..
  | ok tree =>
    have hafter : (keeper.start earlier call).2 = tree := by
      simp [keeper, hwrite, Except.toOption]
    rw [hafter]
    obtain ⟨place, hresolve, hwrites⟩ := writesAt_of_write hwrite
    have hlog : call.tree.resolve (Path.join "out" "Log.proto") = .ok place := hresolve
    obtain ⟨below, -, -, rfl⟩ := resolve_join_eq_ok (by decide) (by decide) (by decide) hlog
    refine ⟨hwrites.keeps, fun other hinput => hwrites.elsewhere other ?_,
      fun path hpath text hread => ?_⟩
    · rintro rfl
      obtain ⟨dir, name, -, hinput, heq⟩ := hinput
      obtain rfl := (List.cons.inj heq).1
      exact absurd hinput.extension (by decide)
    · have hpaths : (results "Quote").map Generated.schema =
          ["BarSeries.proto", "QuoteSeries.proto"].map (Path.join "out") := by
        decide
      have hnames : ∀ name ∈ ["BarSeries.proto", "QuoteSeries.proto"], Path.isName name = true ∧
          name ≠ "." ∧ name ≠ ".." ∧ name ≠ "Log.proto" := by
        decide
      rw [hpaths] at hpath
      obtain ⟨name, hmem, rfl⟩ := List.mem_map.mp hpath
      obtain ⟨hname, hdot, hdots, hne⟩ := hnames name hmem
      refine hwrites.keeps.read_eq_ok hread fun place entry hresolve' hget => ?_
      obtain ⟨below', -, -, rfl⟩ := resolve_join_eq_ok hname hdot hdots hresolve'
      rw [hwrites.elsewhere _ fun heq => hne (FileName.text.inj (List.cons.inj heq).1), hget]

end TwoClasses

theorem generateSchemas_schemas_twoClasses :
    TwoClasses.settings.fileExtension ≠ "proto" ∧
    ∃ st', generateSchemas TwoClasses.settings TwoClasses.keeper
        (.initial TwoClasses.different) = (.ok (TwoClasses.results "Quote"), st') ∧
      TwoClasses.keeper.Spares TwoClasses.settings TwoClasses.different
        ((TwoClasses.results "Quote").map Generated.schema) st'.calls ∧
      ∃ docs, (docs.map Document.record).Nodup ∧
        List.Forall₂ (fun doc g => g.IsOf TwoClasses.settings doc) docs
          (TwoClasses.results "Quote") ∧
        ((TwoClasses.results "Quote").map Generated.schema).Nodup ∧
        ∀ doc ∈ docs, st'.tree.read (TwoClasses.settings.schemaPath doc) = .ok doc.render := by
  have hext : TwoClasses.settings.fileExtension ≠ "proto" := by decide
  have hresult : (generateSchemas TwoClasses.settings TwoClasses.keeper
      (.initial TwoClasses.different)).1 = .ok (TwoClasses.results "Quote") := by
    rw [TwoClasses.pass_different]
    decide +kernel
  obtain ⟨inputs, -, -, -, hspares⟩ := generateSchemas_schemas hext (Prod.ext hresult rfl)
  have hc := TwoClasses.spares_keeper TwoClasses.different
  obtain ⟨docs, -, hgenerated, -, hown⟩ := hspares (hc _)
  have hnodup : (docs.map Document.record).Nodup := by
    rw [← map_type_eq hgenerated]
    decide
  exact ⟨hext, _, Prod.ext hresult rfl, hc _, docs, hnodup, hgenerated, hown hnodup⟩

/-- **A schema can be lost in a pass that succeeds**, although the settings have no fault.  Two
classes of one name have one path, and at the end it does not hold the schema of the first.  And
when the names differ, a compiler can remove what was written. -/
theorem generateSchemas_replaces :
    TwoClasses.settings.fault? = none ∧ TwoClasses.settings.fileExtension ≠ "proto" ∧
    (∃ st', generateSchemas TwoClasses.settings TwoClasses.compiler (.initial TwoClasses.same) =
        (.ok (TwoClasses.results "Bar"), st') ∧
      ¬ ((TwoClasses.results "Bar").map Generated.schema).Nodup ∧
      ∃ doc, renderFile TwoClasses.settings TwoClasses.same "in/A.java" = .ok doc ∧
        st'.tree.read (TwoClasses.settings.schemaPath doc) ≠ .ok doc.render) ∧
    ∃ st', generateSchemas TwoClasses.settings TwoClasses.remover
        (.initial TwoClasses.different) = (.ok (TwoClasses.results "Quote"), st') ∧
      ∃ doc, renderFile TwoClasses.settings TwoClasses.different "in/A.java" = .ok doc ∧
        st'.tree.read (TwoClasses.settings.schemaPath doc) ≠ .ok doc.render := by
  have hfirst : ∀ t ∈ [TwoClasses.same, TwoClasses.different],
      renderFile TwoClasses.settings t "in/A.java" = .ok TwoClasses.bar := by
    decide +kernel
  have hsame : (generateSchemas TwoClasses.settings TwoClasses.compiler
      (.initial TwoClasses.same)).1 = .ok (TwoClasses.results "Bar") := by
    rw [TwoClasses.pass_same]
    decide +kernel
  have hreplaced : (generateSchemas TwoClasses.settings TwoClasses.compiler
      (.initial TwoClasses.same)).2.tree.read (TwoClasses.settings.schemaPath TwoClasses.bar) ≠
        .ok TwoClasses.bar.render := by
    rw [TwoClasses.pass_same]
    decide +kernel
  have hdifferent : (generateSchemas TwoClasses.settings TwoClasses.remover
      (.initial TwoClasses.different)).1 = .ok (TwoClasses.results "Quote") := by
    rw [TwoClasses.pass_different]
    decide +kernel
  have hremoved : (generateSchemas TwoClasses.settings TwoClasses.remover
      (.initial TwoClasses.different)).2.tree.read
        (TwoClasses.settings.schemaPath TwoClasses.bar) ≠ .ok TwoClasses.bar.render := by
    rw [TwoClasses.pass_different]
    decide +kernel
  exact ⟨by decide +kernel, by decide,
    ⟨_, Prod.ext hsame rfl, by decide, _, hfirst _ List.mem_cons_self, hreplaced⟩,
    _, Prod.ext hdifferent rfl, _, hfirst _ (List.mem_cons_of_mem _ List.mem_cons_self), hremoved⟩

end SeriesSchema
