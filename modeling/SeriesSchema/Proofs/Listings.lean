import SeriesSchema.Proofs.Inputs

/-!
# Listings

What a pass makes of a listing of its input directory.  Which files it finds is said here without
the functions that look for them (`IsDefinitionFile`): the visible files in the directory whose name
has the extension, as far as the system takes their paths.  A pass finds these and no others, each
once, in the order of the bytes of their names; and the order in which the directory lists them does
not matter (`discover_finds`).

Two of the conditions are worth a second look.

* A name is asked for its first character only if it is a text.  So a file whose name is no text is
  found, also if the first of its bytes is a full stop (`discover_garbledName`).
* A directory can be listed by a path that leaves no room for a name behind it; then the files in it
  are not found (`discover_longPath`).

1. definition files;
2. what is found;
3. a name that is no text;
4. a path without room.
-/

namespace SeriesSchema

open FileTree

variable {s : Settings} {t : FileTree}

/-! ## 1. Definition files -/

/-- Whether an extension stands behind the last full stop of a name, and something before it.  If
the name is no text, this is said of its bytes. -/
def FileName.EndsIn (extension : String) : FileName → Prop
  | .text name => ∃ stem, stem ≠ [] ∧ name.toList = stem ++ '.' :: extension.toList ∧
      '.' ∉ extension.toList
  | .garble name => ∃ stem, stem ≠ [] ∧ name.bytes = stem ++ 0x2E :: Text.utf8 extension ∧
      '.' ∉ extension.toList

theorem FileName.hasExtension_iff {extension : String} {name : FileName} :
    name.hasExtension extension = true ↔ name.EndsIn extension := by
  cases name with
  | text name => rw [text_hasExtension, Path.nameExtension?_eq_some_iff, EndsIn]
  | garble name =>
    rw [hasExtension, beq_iff_eq, Path.behindLast_eq_some_iff, EndsIn, Text.dot_mem_utf8]

/-- Whether a name in the input directory, which is at `dir`, is that of a definition file. -/
structure IsDefinitionFile (s : Settings) (t : FileTree) (dir : Location) (name : FileName) :
    Prop where
  isName : name.isName = true
  /-- a file stands there, and no directory -/
  file : ∃ content executable, t.get? (name :: dir) = some (.file content executable)
  /-- the name does not start with a full stop, unless it is no text -/
  visible : ∀ letters, name = .text letters → letters.toList.head? ≠ some '.'
  /-- the extension stands behind the last full stop, and something before it -/
  extension : name.EndsIn s.fileExtension
  taken : TakesName s.inputDir name

theorem isHidden_eq_false_iff {name : FileName} :
    isHidden name = false ↔ ∀ letters, name = .text letters → letters.toList.head? ≠ some '.' := by
  cases name with
  | text name => simp [isHidden]
  | garble name => simp [isHidden]

/-- Definition files are what is selected. -/
theorem isInput_iff {dir : Location} {name : FileName} :
    IsInput s t dir name ↔ IsDefinitionFile s t dir name := by
  constructor
  · rintro ⟨hname, hvisible, hextension, htaken, hfile⟩
    exact ⟨hname, hfile, isHidden_eq_false_iff.mp hvisible, FileName.hasExtension_iff.mp hextension,
      htaken⟩
  · rintro ⟨hname, hfile, hvisible, hextension, htaken⟩
    exact ⟨hname, isHidden_eq_false_iff.mpr hvisible, FileName.hasExtension_iff.mpr hextension,
      htaken, hfile⟩

/-! ## 2. What is found -/

/-- Names in order that are not repeated are in strict order. -/
theorem AreInputs.strictlyOrdered {dir : Location} {names : List FileName}
    (h : AreInputs s t dir names) : names.Pairwise fun a b => a.bytes < b.bytes :=
  (h.ordered.and h.nodup).imp fun ⟨hle, hne⟩ =>
    Std.lt_of_le_of_ne hle fun heq => hne (FileName.bytes_injective heq)

/-- **What a pass finds** if its input directory can be listed: the definition files, in the strict
order of the bytes of their names, and the same in whatever order the entries are listed. -/
theorem discover_finds {items : List (FileName × Entry)} (h : t.list s.inputDir = .ok items) :
    ∃ (dir : Location) (names : List FileName),
      t.walk (t.start s.inputDir) (Path.parts s.inputDir) = .ok dir ∧
      t.get? dir = some .directory ∧
      discover s t = .ok (names.map (Path.child s.inputDir)) ∧
      (∀ listed, listed.Perm items →
        s.inputsAmong t listed = names.map (Path.child s.inputDir)) ∧
      (names.Pairwise fun a b => a.bytes < b.bytes) ∧
      (names.map (Path.child s.inputDir)).Nodup ∧
      ∀ path, path ∈ names.map (Path.child s.inputDir) ↔
        ∃ name, IsDefinitionFile s t dir name ∧ path = Path.child s.inputDir name := by
  obtain ⟨dir, hwalk, hdir, rfl⟩ := list_eq_ok h
  obtain ⟨names, hnames, hinputs⟩ := areInputs_of_perm hwalk hdir (.refl _)
  have hdiscover : discover s t = .ok (names.map (Path.child s.inputDir)) := by
    rw [discover, h, ← hinputs]
  refine ⟨dir, names, hwalk, hdir, hdiscover, fun listed hlisted => ?_, hnames.strictlyOrdered,
    nodup_of_discover hdiscover, fun path => ?_⟩
  · obtain ⟨names', hnames', hinputs'⟩ := areInputs_of_perm hwalk hdir hlisted
    rw [hinputs', names_unique hnames' hnames fun _ => Iff.rfl]
  · rw [List.mem_map]
    constructor
    · rintro ⟨name, hmem, rfl⟩
      exact ⟨name, isInput_iff.mp ((hnames.mem_iff name).mp hmem), rfl⟩
    · rintro ⟨name, hfile, rfl⟩
      exact ⟨name, (hnames.mem_iff name).mpr (isInput_iff.mpr hfile), rfl⟩

/-- A tree with nothing but a directory `in`, which holds some entries. -/
def FileTree.holding (items : List (FileName × Entry)) : FileTree :=
  items.foldl (fun t item => t.put [item.1, "in"] item.2) (.empty [])

/-- Some name that is no text: `.`, a byte that begins no character, and `.java`. -/
def dottedGarble : Garble :=
  ⟨[0x2E, 0xFF, 0x2E, 0x6A, 0x61, 0x76, 0x61], by decide⟩

namespace Mixed

/-- The settings: the extension is `java`. -/
def settings : Settings :=
  { inputDir := "in", extractor := .declaration }

/-- Some file. -/
def file : Entry :=
  .file (.text "class A { int x; }") false

/-- What a directory holds, in no order: definition files, and what looks like them. -/
def items : List (FileName × Entry) :=
  [("b.java", file), (".a.java", file), (.garble dottedGarble, file), ("a.b.java", file),
    ("x.java.", file), (".java", file), ("d.java", .directory), ("c.JAVA", file), ("A.java", file)]

def tree : FileTree := .holding items

theorem lists : tree.list settings.inputDir = .ok items := rfl

/-- The same, in the order of the names. -/
def sorted : List (FileName × Entry) :=
  [(".a.java", file), (".java", file), (.garble dottedGarble, file), ("A.java", file),
    ("a.b.java", file), ("b.java", file), ("c.JAVA", file), ("d.java", .directory),
    ("x.java.", file)]

/-- The names of the definition files. -/
def names : List FileName :=
  [.garble dottedGarble, "A.java", "a.b.java", "b.java"]

/-- Their paths. -/
def inputs : List Path :=
  [.garbled "in" dottedGarble, "in/A.java", "in/a.b.java", "in/b.java"]

theorem inputsAmong_sorted : settings.inputsAmong tree sorted = inputs := by
  have hselected : (sorted.map Prod.fst).filter (settings.selects tree) = names := by
    decide +kernel
  rw [Settings.inputsAmong, hselected, List.mergeSort_of_pairwise (by decide +kernel)]
  rfl

end Mixed

/-- In a directory of all sorts four files are found. -/
theorem discover_finds_mixed :
    Mixed.tree.list Mixed.settings.inputDir = .ok Mixed.items ∧
      discover Mixed.settings Mixed.tree = .ok Mixed.inputs ∧
      (∀ listed, listed.Perm Mixed.items →
        Mixed.settings.inputsAmong Mixed.tree listed = Mixed.inputs) ∧
      ∀ path, path ∈ Mixed.inputs ↔
        ∃ name, IsDefinitionFile Mixed.settings Mixed.tree ["in"] name ∧
          path = Path.child Mixed.settings.inputDir name := by
  obtain ⟨dir, names, hwalk, -, hdiscover, hlisted, -, -, hmem⟩ := discover_finds Mixed.lists
  have hpaths : names.map (Path.child Mixed.settings.inputDir) = Mixed.inputs := by
    rw [← hlisted Mixed.sorted (by decide +kernel), Mixed.inputsAmong_sorted]
  have hdir : dir = ["in"] := by
    have hwalk' : Mixed.tree.walk (Mixed.tree.start Mixed.settings.inputDir)
        (Path.parts Mixed.settings.inputDir) = .ok ["in"] := rfl
    rw [hwalk'] at hwalk
    exact (Except.ok.inj hwalk).symm
  subst hdir
  rw [hpaths] at hdiscover hlisted hmem
  exact ⟨Mixed.lists, hdiscover, hlisted, hmem⟩

/-! ## 3. A name that is no text -/

namespace GarbledName

/-- What the directory of the inputs holds. -/
def items : List (FileName × Entry) :=
  [(.garble dottedGarble, .file (.text "class A { int x; }") false)]

def tree : FileTree := .holding items

theorem lists : tree.list Mixed.settings.inputDir = .ok items := rfl

end GarbledName

/-- **A file that is found although its name begins with a full stop**: the bytes of the name are
`.`, 0xFF and `.java`, which are the encoding of no text. -/
theorem discover_garbledName :
    GarbledName.tree.list Mixed.settings.inputDir =
        .ok [(.garble dottedGarble, .file (.text "class A { int x; }") false)] ∧
      dottedGarble.bytes = [0x2E, 0xFF] ++ Text.utf8 ".java" ∧
      (Text.utf8 ".").isPrefixOf dottedGarble.bytes = true ∧
      discover Mixed.settings GarbledName.tree = .ok [.garbled "in" dottedGarble] := by
  have hselected : (GarbledName.items.map Prod.fst).filter
      (Mixed.settings.selects GarbledName.tree) = [.garble dottedGarble] := by
    decide +kernel
  refine ⟨GarbledName.lists, ?_, ?_,
    discover_of_pairwise GarbledName.lists hselected (List.pairwise_singleton _ _)⟩
  · rw [Text.utf8_eq_flatMap]
    rfl
  · rw [Text.utf8_eq_flatMap]
    rfl

/-! ## 4. A path without room

A directory with one file is listed by its name and thousands of slashes.  Nothing is wrong with
that path, but there is no room for a name behind it. -/

namespace LongPath

/-- So many slashes. -/
def slashes : Nat → String
  | 0 => ""
  | n + 1 => slashes n ++ "/"

theorem utf8ByteSize_slashes (n : Nat) : (slashes n).utf8ByteSize = n := by
  induction n with
  | zero => rfl
  | succ n ih =>
    rw [slashes, String.utf8ByteSize_append, ih]
    rfl

theorem eq_slash_of_mem {n : Nat} {c : Char} (h : c ∈ (slashes n).toList) : c = '/' := by
  induction n with
  | zero => simp [slashes] at h
  | succ n ih =>
    rw [slashes, String.toList_append, List.mem_append] at h
    rcases h with h | h
    · exact ih h
    · simpa using h

/-- Slashes at the end add no part. -/
theorem parts_append_slashes (path : String) (n : Nat) :
    Path.parts (path ++ slashes n) = Path.parts path := by
  induction n with
  | zero => rw [slashes, String.append_empty]
  | succ n ih => rw [slashes, ← String.append_assoc, Path.parts_append_slash, ih]

def settings : Settings :=
  { inputDir := "in" ++ slashes 4090, extractor := .declaration }

/-- What the directory of the inputs holds. -/
def items : List (FileName × Entry) :=
  [("A.java", .file (.text "class A { int x; }") false)]

def tree : FileTree := .holding items

theorem getLast?_append_slashes (path : String) (n : Nat) :
    (path ++ slashes (n + 1)).toList.getLast? = some '/' := by
  rw [slashes, ← String.append_assoc, String.toList_append]
  exact List.getLast?_concat

/-- The steps lead to the directory and stay there. -/
theorem steps_inputDir : Path.steps settings.inputDir = ["in", "."] := by
  have hsteps (n : Nat) : Path.steps ("in" ++ slashes (n + 1)) = ["in", "."] := by
    rw [Path.steps, getLast?_append_slashes, parts_append_slashes, Path.parts_of_isName (by decide)]
    rfl
  exact hsteps 4089

/-- Behind a slash a name stands as it is. -/
theorem join_inputDir {name : String} (h : Path.isName name = true) :
    Path.join settings.inputDir name = settings.inputDir ++ name := by
  have hlast : settings.inputDir.toList.getLast? = some '/' := getLast?_append_slashes "in" 4089
  have hne : settings.inputDir ≠ "" := fun hempty => by simp [hempty] at hlast
  rw [Path.join, Path.not_isAbsolute_of_isName h, hlast]
  simp [hne]

/-- The path just fits. -/
theorem utf8ByteSize_inputDir : settings.inputDir.utf8ByteSize = 4092 := by
  rw [settings, String.utf8ByteSize_append, utf8ByteSize_slashes]
  rfl

theorem accept_inputDir : accept settings.inputDir = .ok () := by
  have hnul : '\x00' ∉ settings.inputDir.toList := by
    rw [settings, String.toList_append, List.mem_append]
    rintro (hnul | hnul)
    · exact absurd hnul (by decide)
    · exact absurd (eq_slash_of_mem hnul) (by decide)
  have hne : settings.inputDir ≠ "" := by
    intro hempty
    have hsize := utf8ByteSize_inputDir
    rw [hempty] at hsize
    exact absurd hsize (by decide)
  have hfits : Path.size settings.inputDir ≤ maxPath := by
    rw [Path.size, utf8ByteSize_inputDir]
    decide
  exact accept_eq_ok.mpr
    ⟨by simpa [Path.holdsNul] using hnul, by simpa [Path.isEmpty] using hne, hfits⟩

theorem list_inputDir : tree.list settings.inputDir = .ok items := by
  have hstart : tree.start settings.inputDir = [] := ite_self _
  have hresolve : tree.resolve settings.inputDir = tree.walk [] ["in", "."] := by
    rw [resolve, accept_inputDir, follow, steps_inputDir, hstart]
  rw [list, hresolve]
  rfl

/-- The path of a name does not fit. -/
theorem not_takesName {name : String} (hname : Path.isName name = true)
    (hlong : 3 < name.utf8ByteSize) : ¬ TakesName settings.inputDir name := by
  intro htakes
  have hsize := (accept_eq_ok.mp htakes.path).2.2
  rw [Path.child, Path.size, join_inputDir hname, String.utf8ByteSize_append, utf8ByteSize_inputDir,
    maxPath] at hsize
  omega

end LongPath

/-- **A file that is not found**: it is the visible file `A.java` in an input directory that can be
listed, and its extension is the one in question; but no path leads to it that joins the input
directory and its name. -/
theorem discover_longPath :
    LongPath.tree.list LongPath.settings.inputDir =
        .ok [("A.java", .file (.text "class A { int x; }") false)] ∧
      isHidden "A.java" = false ∧
      Path.nameExtension? "A.java".toList = some LongPath.settings.fileExtension.toList ∧
      discover LongPath.settings LongPath.tree = .ok [] := by
  have hselects : LongPath.settings.selects LongPath.tree "A.java" = false := by
    rw [Bool.eq_false_iff]
    intro hselects
    obtain ⟨dir, hwalk, hdir, -⟩ := list_eq_ok LongPath.list_inputDir
    have hinput := (selects_iff hwalk hdir (by decide)).mp hselects
    exact LongPath.not_takesName (by decide) (by decide) hinput.taken
  refine ⟨LongPath.list_inputDir, by decide, by decide, ?_⟩
  refine discover_of_pairwise LongPath.list_inputDir ?_ .nil
  rw [LongPath.items, List.map_singleton, List.filter_cons, hselects]
  rfl

end SeriesSchema
