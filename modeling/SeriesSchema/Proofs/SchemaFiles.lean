import Mathlib.Data.List.Forall2
import SeriesSchema.Program
import SeriesSchema.Proofs.ExtractedNames
import SeriesSchema.Proofs.Inputs
import SeriesSchema.Proofs.Steps

/-!
# Schema files

What a pass leaves in the tree.  Reading and writing take turns, and the directory that is written
to may be the one that is read from, or lie above or below it.  What keeps them apart is `Written`,
the invariant of the pass: a place shows what it showed before, or is a directory on the way to the
schema files, or is the file of a schema.

* No schema is written over an input, since the extensions differ (`Written.input`).  So each input
  is read as it was before the pass (`Written.read_input`).
* A schema file stays as it was written unless a later schema has the same path
  (`Written.writeSchema`).

1. the names of schema files;
2. the invariant, and what follows for inputs;
3. one more file;
4. a pass over some files, and over all.
-/

namespace SeriesSchema

open FileTree

variable {s : Settings} {c : Compiler}

/-! ## 1. The names of schema files -/

/-- The name of a schema file is a name in a directory; its extension is `proto`. -/
structure Document.NamesFile (doc : Document) : Prop where
  isName : Path.isName doc.fileName = true
  extension : Path.nameExtension? doc.fileName.toList = some "proto".toList
  ne_dot : doc.fileName ≠ "."
  ne_dots : doc.fileName ≠ ".."

theorem Document.NamesFile.hasExtension {doc : Document} (h : doc.NamesFile) :
    (FileName.text doc.fileName).hasExtension "proto" = true :=
  FileName.text_hasExtension.mpr h.extension

/-- The file of a schema is named after the type. -/
theorem fileName_ofDefinition (d : Definition) (package : String) :
    (Document.ofDefinition d package).fileName = d.name ++ "Series.proto" := by
  rw [Document.fileName, Document.ofDefinition, Definition.seriesName, String.append_assoc]
  rfl

/-- A definition whose name holds no slash gives a file name. -/
theorem namesFile_ofDefinition {d : Definition} (package : String) (h : '/' ∉ d.name.toList) :
    (Document.ofDefinition d package).NamesFile := by
  have hlist : (Document.ofDefinition d package).fileName.toList =
      (d.name.toList ++ "Series".toList) ++ '.' :: "proto".toList := by
    simp [Document.fileName, Document.ofDefinition, Definition.seriesName]
  have hlong : 2 < (Document.ofDefinition d package).fileName.toList.length := by
    rw [hlist]
    simp
  refine ⟨Path.isName_iff.mpr ⟨fun hnil => ?_, ?_⟩, ?_, fun hdot => ?_, fun hdots => ?_⟩
  · rw [hnil] at hlong
    exact absurd hlong (by decide)
  · rw [hlist]
    simp [h]
  · rw [hlist]
    exact Path.nameExtension?_append (by simp) (by decide)
  · rw [hdot] at hlong
    exact absurd hlong (by decide)
  · rw [hdots] at hlong
    exact absurd hlong (by decide)

/-- **Whatever an input holds, its schema gets a file name**: no type name holds a slash. -/
theorem namesFile_of_renderFile {t : FileTree} {path : Path} {doc : Document}
    (h : renderFile s t path = .ok doc) : doc.NamesFile := by
  obtain ⟨source, d, -, hd, rfl⟩ := renderFile_eq_ok h
  exact namesFile_ofDefinition _
    (Extractor.not_mem_name hd List.mem_cons_self (by decide) (by decide))

/-- The place of a schema file is its name in the output directory, wherever that is. -/
theorem resolve_schemaPath {t : FileTree} {doc : Document} {place : Location}
    (hdoc : doc.NamesFile) (h : t.resolve (s.schemaPath doc) = .ok place) :
    ∃ out, t.walk (t.start s.protoOutDir) (Path.parts s.protoOutDir) = .ok out ∧
      place = FileName.text doc.fileName :: out := by
  obtain ⟨out, hwalk, -, hplace⟩ := resolve_join_eq_ok hdoc.isName hdoc.ne_dot hdoc.ne_dots h
  exact ⟨out, hwalk, hplace⟩

/-- Schemas with different paths have different places. -/
theorem place_ne_of_schemaPath_ne {t : FileTree} {doc other : Document} {place place' : Location}
    (hdoc : doc.NamesFile) (hother : other.NamesFile)
    (hne : s.schemaPath doc ≠ s.schemaPath other)
    (h : t.resolve (s.schemaPath doc) = .ok place)
    (h' : t.resolve (s.schemaPath other) = .ok place') : place ≠ place' := by
  obtain ⟨out, -, rfl⟩ := resolve_schemaPath hdoc h
  obtain ⟨out', -, rfl⟩ := resolve_schemaPath hother h'
  intro heq
  have hname : doc.fileName = other.fileName := FileName.text.inj (List.cons.inj heq).1
  exact hne (by rw [Settings.schemaPath, Settings.schemaPath, hname])

/-- **From one file to a pass**: what speaks of the tree and of the documents so far, is carried on
by each file that succeeds, and lets the files be read as they were at first, is carried through a
pass that succeeds.  A file may use that its result is one of the pass, and that the compiler has
not been called but in the pass. -/
theorem generateFiles_carries {holds : FileTree → List Document → Prop} {before : FileTree}
    {paths : List Path} {calls : List Call} {results : List Generated}
    (hread : ∀ {tree docs}, holds tree docs → ∀ path ∈ paths,
      renderFile s tree path = renderFile s before path)
    (hstep : ∀ {st st' : State} {docs path g}, holds st.tree docs →
      generateFile s c path st = (.ok g, st') → st'.calls <+: calls → g ∈ results →
        ∃ doc, renderFile s st.tree path = .ok doc ∧ g.type = doc.record ∧
          g.schema = s.schemaPath doc ∧ holds st'.tree (docs ++ [doc]))
    {st st' : State} {docs : List Document} {gs : List Generated} (h : holds st.tree docs)
    (hrun : generateFiles s c paths st = (.ok gs, st')) (hcalls : st'.calls <+: calls)
    (hresults : gs ⊆ results) :
    ∃ more, List.Forall₂ (fun path doc => renderFile s before path = .ok doc) paths more ∧
      List.Forall₂ (fun doc g => g.type = doc.record ∧ g.schema = s.schemaPath doc) more gs ∧
        holds st'.tree (docs ++ more) := by
  induction paths generalizing st docs gs with
  | nil =>
    obtain ⟨hgs, rfl⟩ := Prod.mk.inj hrun
    obtain rfl := Except.ok.inj hgs
    exact ⟨[], .nil, .nil, by simpa using h⟩
  | cons path paths ih =>
    obtain ⟨g, gs, next, hfile, hfiles, rfl⟩ := generateFiles_cons_eq_ok.mp hrun
    obtain ⟨hg, hgs⟩ := List.cons_subset.mp hresults
    have hmade : next.calls <+: st'.calls := by
      simpa only [hfiles] using calls_prefix_generateFiles s c paths next
    obtain ⟨doc, hrender, htype, hschema, hnext⟩ := hstep h hfile (hmade.trans hcalls) hg
    obtain ⟨more, hrenders, hgenerated, hlast⟩ := ih
      (fun htree other hmem => hread htree other (List.mem_cons_of_mem _ hmem)) hnext hfiles hgs
    rw [hread h path List.mem_cons_self] at hrender
    rw [List.append_assoc, List.singleton_append] at hlast
    exact ⟨doc :: more, .cons hrender hrenders, .cons ⟨htype, hschema⟩ hgenerated, hlast⟩

/-! ## 2. The invariant -/

/-- What a pass that has written the schemas `docs`, in this order, has made of a tree. -/
structure Written (s : Settings) (before after : FileTree) (docs : List Document) : Prop where
  /-- each schema has a file name -/
  names : ∀ doc ∈ docs, doc.NamesFile
  /-- directories stay -/
  keeps : before.Keeps after
  /-- all that is new is on the way to the schema files, or one of them -/
  frame : ∀ place, after.get? place = before.get? place ∨
    (before.get? place = none ∧ after.get? place = some .directory ∧
      after.Passes s.protoOutDir place) ∨
    ∃ doc ∈ docs, after.resolve (s.schemaPath doc) = .ok place
  /-- a schema file holds what was written to it last -/
  text : ∀ earlier doc later, docs = earlier ++ doc :: later →
    (∀ other ∈ later, s.schemaPath other ≠ s.schemaPath doc) →
      after.read (s.schemaPath doc) = .ok doc.render

/-- A text that is read stands at a place. -/
theorem FileTree.read_eq_ok {t : FileTree} {path : Path} {text : String}
    (h : t.read path = .ok text) :
    ∃ place executable, t.resolve path = .ok place ∧
      t.get? place = some (.file (.text text) executable) := by
  unfold read lookup at h
  split at h
  · cases h
  · cases h
  · cases h
  · rename_i text' executable hlookup
    obtain rfl := Except.ok.inj h
    split at hlookup
    · cases hlookup
    · rename_i place hresolve
      split at hlookup
      · rename_i entry hget
        obtain rfl := Except.ok.inj hlookup
        exact ⟨place, executable, hresolve, hget⟩
      · cases hlookup

/-- A text is still read if what stands where its path leads has stayed. -/
theorem FileTree.Keeps.read_eq_ok {t u : FileTree} (h : t.Keeps u) {path : Path} {text : String}
    (hread : t.read path = .ok text)
    (hstays : ∀ place entry, t.resolve path = .ok place → t.get? place = some entry →
      u.get? place = some entry) : u.read path = .ok text := by
  obtain ⟨place, executable, hresolve, hget⟩ := FileTree.read_eq_ok hread
  rw [FileTree.read, lookup, h.resolve hresolve]
  simp only [hstays place _ hresolve hget]

namespace Written

variable {before after next : FileTree} {docs : List Document} {st st' : State}

protected theorem refl (s : Settings) (t : FileTree) : Written s t t [] := by
  refine ⟨by simp, .refl t, fun place => Or.inl rfl, fun earlier doc later h => ?_⟩
  simp at h

/-- An input is as it was: schema files have another extension, and directories are made only where
there is nothing. -/
theorem input (h : Written s before after docs)
    (hext : s.fileExtension ≠ "proto") {dir : Location} {name : FileName}
    (hinput : IsInput s before dir name) :
    after.get? (name :: dir) = before.get? (name :: dir) := by
  rcases h.frame (name :: dir) with heq | ⟨hnone, -, -⟩ | ⟨doc, hmem, hresolve⟩
  · exact heq
  · obtain ⟨content, executable, hfile⟩ := hinput.file
    rw [hnone] at hfile
    cases hfile
  · exfalso
    obtain ⟨out, -, hplace⟩ := resolve_schemaPath (h.names doc hmem) hresolve
    have hname : name = doc.fileName := (List.cons.inj hplace).1
    have hextension := hinput.extension
    rw [hname] at hextension
    exact hext (FileName.hasExtension_unique hextension (h.names doc hmem).hasExtension)

/-- **Each input is read as it was before the pass.** -/
theorem read_input (h : Written s before after docs)
    (hext : s.fileExtension ≠ "proto") {path : Path} (hpath : IsInputPath s before path) :
    after.read path = before.read path :=
  read_of_keeps h.keeps hpath fun _ _ => h.input hext

theorem renderFile_input (h : Written s before after docs)
    (hext : s.fileExtension ≠ "proto") {path : Path} (hpath : IsInputPath s before path) :
    renderFile s after path = renderFile s before path :=
  renderFile_congr (h.read_input hext hpath)

/-! ## 3. One more file -/

/-- Directories on the way to the schema files change nothing that the invariant speaks of. -/
theorem addsDirectories (h : Written s before after docs)
    (hadds : after.AddsDirectories next (next.Passes s.protoOutDir)) :
    Written s before next docs := by
  refine ⟨h.names, h.keeps.trans hadds.keeps, fun place => ?_,
    fun earlier doc later hdocs hlater => ?_⟩
  · rcases hadds.places place with heq | ⟨hnone, hdir, hpasses⟩
    · rcases h.frame place with heq' | ⟨hnone, hdir, hpasses⟩ | ⟨doc, hmem, hresolve⟩
      · exact Or.inl (heq.trans heq')
      · exact Or.inr (Or.inl ⟨hnone, heq.trans hdir, hadds.keeps.passes hpasses⟩)
      · exact Or.inr (Or.inr ⟨doc, hmem, hadds.keeps.resolve hresolve⟩)
    · rcases h.frame place with heq' | ⟨-, hdir', -⟩ | ⟨doc, hmem, hresolve⟩
      · exact Or.inr (Or.inl ⟨heq' ▸ hnone, hdir, hpasses⟩)
      · rw [hdir'] at hnone
        cases hnone
      · exact Or.inr (Or.inr ⟨doc, hmem, hadds.keeps.resolve hresolve⟩)
  · exact hadds.keeps.read_eq_ok (h.text earlier doc later hdocs hlater)
      fun _ _ _ hget => hadds.get?_eq hget

/-- A schema that is written is the last one at its path; one at another path stays. -/
theorem writesAt (h : Written s before after docs)
    {doc : Document} (hdoc : doc.NamesFile) {place : Location}
    (hresolve : after.resolve (s.schemaPath doc) = .ok place)
    (hwrites : after.WritesAt next place doc.render) : Written s before next (docs ++ [doc]) := by
  have hkeeps := hwrites.keeps
  refine ⟨?_, h.keeps.trans hkeeps, fun other => ?_, fun earlier old later heq hlater => ?_⟩
  · exact List.forall_mem_append.mpr ⟨h.names, by simpa using hdoc⟩
  · by_cases hother : other = place
    · subst hother
      exact Or.inr (Or.inr ⟨doc, by simp, hkeeps.resolve hresolve⟩)
    · rw [hwrites.elsewhere other hother]
      rcases h.frame other with heq | ⟨hnone, hdir, hpasses⟩ | ⟨old, hmem, hplace⟩
      · exact Or.inl heq
      · exact Or.inr (Or.inl ⟨hnone, hdir, hkeeps.passes hpasses⟩)
      · exact Or.inr (Or.inr ⟨old, by simp [hmem], hkeeps.resolve hplace⟩)
  · rcases List.eq_nil_or_concat later with rfl | ⟨later, last, rfl⟩
    · obtain ⟨-, hlast⟩ := List.append_inj' heq rfl
      obtain rfl : doc = old := by simpa using hlast
      exact hwrites.read (hkeeps.resolve hresolve)
    · -- a schema of an earlier file, at a path that the new one does not have
      rw [List.concat_eq_append] at heq hlater
      have hsplit : docs ++ [doc] = (earlier ++ old :: later) ++ [last] := by
        rw [heq, List.append_assoc, List.cons_append]
      obtain ⟨hdocs', hlast⟩ := List.append_inj' hsplit rfl
      obtain rfl : doc = last := by simpa using hlast
      have hread := h.text earlier old later hdocs' fun other hmem =>
        hlater other (List.mem_append_left _ hmem)
      have hsome : old.NamesFile := h.names old (by rw [hdocs']; simp)
      have hpath : s.schemaPath old ≠ s.schemaPath doc :=
        (hlater doc (List.mem_append_right _ List.mem_cons_self)).symm
      refine hkeeps.read_eq_ok hread fun place' entry hresolve' hget => ?_
      have hne := place_ne_of_schemaPath_ne hsome hdoc hpath hresolve' hresolve
      rw [hwrites.elsewhere place' hne, hget]

/-- **The step of the invariant**: one more schema is written. -/
theorem writeSchema (h : Written s before after docs)
    {doc : Document} (hdoc : doc.NamesFile) {path : String}
    (hwrite : writeSchema s doc after = (.ok path, next)) :
    Written s before next (docs ++ [doc]) := by
  rcases writeSchema_cases hwrite with
    ⟨_, _, herror, -⟩ | ⟨-, made, place, hadds, hresolve, hwrites⟩
  · cases herror
  · exact (h.addsDirectories hadds).writesAt hdoc hresolve hwrites

/-- A file that is handled with success adds its schema. -/
theorem generateFile (h : Written s before st.tree docs)
    (hc : c.LeavesTree) {path : Path} {g : Generated}
    (hrun : generateFile s c path st = (.ok g, st')) :
    ∃ doc, renderFile s st.tree path = .ok doc ∧ g.type = doc.record ∧
      g.schema = s.schemaPath doc ∧ Written s before st'.tree (docs ++ [doc]) := by
  obtain ⟨doc, tree, _, hrender, hwrite, hcompile, rfl⟩ := generateFile_eq_ok hrun
  have hwritten := h.writeSchema (namesFile_of_renderFile hrender) hwrite
  have htree : st'.tree = tree := tree_compile hc hcompile
  rw [← htree] at hwritten
  exact ⟨doc, hrender, rfl, rfl, hwritten⟩

/-! ## 4. A pass -/

/-- **The run of the invariant**: a pass over some inputs that succeeds writes the schemas of the
inputs as they were at first, in this order. -/
theorem generateFiles (h : Written s before st.tree docs)
    (hc : c.LeavesTree) (hext : s.fileExtension ≠ "proto") {paths : List Path}
    (hpaths : ∀ path ∈ paths, IsInputPath s before path) {gs : List Generated}
    (hrun : generateFiles s c paths st = (.ok gs, st')) :
    ∃ more, List.Forall₂ (fun path doc => renderFile s before path = .ok doc) paths more ∧
      List.Forall₂ (fun doc g => g.type = doc.record ∧ g.schema = s.schemaPath doc) more gs ∧
        Written s before st'.tree (docs ++ more) :=
  generateFiles_carries (fun hwritten _ hmem => hwritten.renderFile_input hext (hpaths _ hmem))
    (fun hwritten hfile _ _ => hwritten.generateFile hc hfile) h hrun List.prefix_rfl
    (List.Subset.refl gs)

end Written

/-- What the program shows of a file: whenever the settings come out as `s`, the command that shows
the schema of the file, if its path can be written on a command line, succeeds and puts out this
text. -/
def Program.Shows (s : Settings) (t : FileTree) (path : Path) (text : String) : Prop :=
  ∀ file, path = .text file → ∀ env config overrides logLevel filter,
    prepare env t config overrides logLevel = .ok (s, filter) →
      (render env t file config overrides logLevel).code = 0 ∧
        (render env t file config overrides logLevel).output = text

theorem Program.shows_of_renderFile {t : FileTree} {path : Path} {doc : Document}
    (h : renderFile s t path = .ok doc) : Shows s t path doc.render := by
  rintro file rfl env config overrides logLevel filter hprepare
  rw [render, hprepare]
  simp only [h]
  exact ⟨rfl, rfl⟩

/-- **What a pass that succeeds has done.**  There is one result for each input, in order; it names
the record of the input and the path of its schema file, both as the input stood before the pass.
The tree is what `Written` says: each of these files holds the schema that comes last among those
with its path, other files are as they were, and directories were made only on the way. -/
theorem generateSchemas_writes (hext : s.fileExtension ≠ "proto") (hc : c.LeavesTree)
    {t : FileTree} {gs : List Generated} {st' : State}
    (h : generateSchemas s c (.initial t) = (.ok gs, st')) :
    ∃ inputs docs, discover s t = .ok inputs ∧
      List.Forall₂ (fun path doc => renderFile s t path = .ok doc ∧
        Program.Shows s t path doc.render) inputs docs ∧
      List.Forall₂ (fun doc g => g.type = doc.record ∧ g.schema = s.schemaPath doc) docs gs ∧
      Written s t st'.tree docs := by
  rw [generateSchemas] at h
  split at h
  · cases (Prod.mk.inj h).1
  · rename_i inputs hinputs
    obtain ⟨docs, hrenders, hgenerated, hwritten⟩ :=
      (Written.refl s t).generateFiles hc hext (isInputPath_of_discover hinputs) h
    refine ⟨inputs, docs, hinputs, ?_, hgenerated, hwritten⟩
    exact hrenders.imp fun path doc hrender => ⟨hrender, Program.shows_of_renderFile hrender⟩

/-! ## 5. Two files

Two types are read from a directory in which the output directory is to be made. -/

namespace TwoFiles

/-- The settings: schema files go below the directory of the inputs. -/
def settings : Settings :=
  { inputDir := "in", protoOutDir := "in/out", extractor := .declaration }

/-- What the directory of the inputs holds. -/
def items : List (FileName × Entry) :=
  [("A.java", .file (.text "interface Bar {}") false),
    ("B.java", .file (.text "package p; interface Quote { int depth; }") false)]

/-- A tree with nothing else. -/
def tree : FileTree :=
  items.foldl (fun t item => t.put [item.1, "in"] item.2) (.empty [])

/-- A compiler that succeeds once and then fails. -/
def compiler : Compiler :=
  .scripted "protoc" [.ended ⟨some 0⟩, .ended ⟨some 1⟩]

/-- What comes of the two files. -/
def results : List Generated :=
  [⟨"Bar", "in/out/BarSeries.proto", .succeeded⟩,
    ⟨"Quote", "in/out/QuoteSeries.proto", .failed ⟨some 1⟩⟩]

theorem discovers : discover settings tree = .ok ["in/A.java", "in/B.java"] := by
  have hitems : tree.list settings.inputDir = .ok items := by decide +kernel
  have hnames : (items.map Prod.fst).filter (settings.selects tree) =
      (["A.java", "B.java"] : List FileName) := by
    decide +kernel
  exact discover_of_pairwise hitems hnames (by decide +kernel)

theorem succeeds : (generateSchemas settings compiler (.initial tree)).1 = .ok results := by
  rw [generateSchemas]
  simp only [State.initial, discovers]
  decide +kernel

end TwoFiles

theorem generateSchemas_writes_twoFiles :
    TwoFiles.settings.fileExtension ≠ "proto" ∧ TwoFiles.compiler.LeavesTree ∧
    ∃ st', generateSchemas TwoFiles.settings TwoFiles.compiler (.initial TwoFiles.tree) =
        (.ok TwoFiles.results, st') ∧
      ∃ inputs docs, discover TwoFiles.settings TwoFiles.tree = .ok inputs ∧
        List.Forall₂ (fun path doc => renderFile TwoFiles.settings TwoFiles.tree path = .ok doc ∧
          Program.Shows TwoFiles.settings TwoFiles.tree path doc.render) inputs docs ∧
        List.Forall₂ (fun doc g => g.type = doc.record ∧
          g.schema = TwoFiles.settings.schemaPath doc) docs TwoFiles.results ∧
        Written TwoFiles.settings TwoFiles.tree st'.tree docs := by
  have hext : TwoFiles.settings.fileExtension ≠ "proto" := by decide
  have hc : TwoFiles.compiler.LeavesTree := Compiler.leavesTree_scripted _ _
  have hrun : generateSchemas TwoFiles.settings TwoFiles.compiler (.initial TwoFiles.tree) =
      (.ok TwoFiles.results, _) := Prod.ext TwoFiles.succeeds rfl
  exact ⟨hext, hc, _, hrun, generateSchemas_writes hext hc hrun⟩

end SeriesSchema
