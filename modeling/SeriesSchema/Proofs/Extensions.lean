import SeriesSchema.Program
import SeriesSchema.Proofs.Listings

/-!
# Extensions and globs

What the program says of the files it takes, and what it takes.  When settings are checked, the
files are shown as a glob: `*.` and the extension.  But a name is asked for what stands behind its
last full stop.  The two come to the same for an extension that holds no full stop, and only for
such a one (`matchesExtension_glob`).

* A name with the extension always ends as the glob has it (`exists_stem_of_nameExtension?`).
* A name that matches the glob has the extension if this holds no full stop, and else has not
  (`MatchesGlob.nameExtension?_iff`).

Settings whose extension holds a full stop are at fault only if it comes first.  So settings may be
checked with success and find nothing (`discover_dottedExtension`).

1. names that match a glob;
2. names that stand alone;
3. what is taken;
4. an extension with a full stop.
-/

namespace SeriesSchema

open FileTree

variable {s : Settings} {t : FileTree}

/-! ## 1. Globs -/

/-- Whether a name matches `*.` and an extension as a shell has it: the asterisk stands for anything
that does not start with a full stop. -/
structure MatchesGlob (extension name : String) : Prop where
  isName : Path.isName name = true
  visible : name.toList.head? ≠ some '.'
  ending : ∃ front, name = front ++ "." ++ extension

theorem toList_append_extension (front extension : String) :
    (front ++ "." ++ extension).toList = front.toList ++ '.' :: extension.toList := by
  rw [String.toList_append, String.toList_append, List.append_assoc]
  rfl

/-- What the asterisk stands for is not empty. -/
theorem matchesGlob_append {stem extension : String} (hstem : stem ≠ "")
    (hvisible : stem.toList.head? ≠ some '.') (hslash : '/' ∉ (stem ++ "." ++ extension).toList) :
    MatchesGlob extension (stem ++ "." ++ extension) := by
  refine ⟨Path.isName_iff.mpr ⟨by simp, hslash⟩, ?_, stem, rfl⟩
  rw [toList_append_extension, List.head?_append_of_ne_nil _ (by simpa using hstem)]
  exact hvisible

/-- **A name that matches the glob** has the extension if this holds no full stop, and else has
not. -/
theorem MatchesGlob.nameExtension?_iff {extension name : String} (h : MatchesGlob extension name) :
    Path.nameExtension? name.toList = some extension.toList ↔ '.' ∉ extension.toList := by
  obtain ⟨front, hname⟩ := h.ending
  have hlist := toList_append_extension front extension
  have hfront : front.toList ≠ [] := by
    intro hnil
    apply h.visible
    rw [hname, hlist, hnil]
    rfl
  constructor
  · intro hext
    obtain ⟨-, -, -, hdot⟩ := Path.nameExtension?_eq_some_iff.mp hext
    exact hdot
  · intro hdot
    rw [hname, hlist]
    exact Path.nameExtension?_append hfront hdot

/-- **A name that has the extension** ends in it, behind a full stop and something more. -/
theorem exists_stem_of_nameExtension? {extension name : String}
    (h : Path.nameExtension? name.toList = some extension.toList) :
    '.' ∉ extension.toList ∧ ∃ stem, stem ≠ "" ∧ name = stem ++ "." ++ extension := by
  obtain ⟨stem, hstem, hname, hdot⟩ := Path.nameExtension?_eq_some_iff.mp h
  refine ⟨hdot, String.ofList stem, by simpa using hstem, ?_⟩
  rw [← String.toList_inj, hname, toList_append_extension, String.toList_ofList]

/-! ## 2. Names that stand alone -/

/-- The extension of a path that is a name. -/
theorem Path.extension?_of_isName {name : String} (h : isName name = true) (hdot : name ≠ ".")
    (hdots : name ≠ "..") : extension? name = (nameExtension? name.toList).map String.ofList := by
  have hjoin : join "" name = name := by
    simp [join]
  rw [← hjoin, extension?_join h hdot hdots, hjoin]

/-- A name has the extension in question if that stands behind its last full stop. -/
theorem matchesExtension_of_isName {name : String} (h : Path.isName name = true) (hdot : name ≠ ".")
    (hdots : name ≠ "..") :
    s.matchesExtension name = true ↔
      Path.nameExtension? name.toList = some s.fileExtension.toList :=
  Path.hasExtension_text (Path.extension?_of_isName h hdot hdots)

/-- A name that matches a glob is visible, and so no step. -/
theorem isName_of_matchesGlob {extension name : String} (h : MatchesGlob extension name) :
    Path.isName name = true ∧ name ≠ "." ∧ name ≠ ".." := by
  refine ⟨h.isName, ?_, ?_⟩
  · rintro rfl
    exact h.visible rfl
  · rintro rfl
    exact h.visible rfl

/-- A text without slashes that has an extension is a name, and no step. -/
theorem isName_of_matchesExtension {name : String} (hslash : '/' ∉ name.toList)
    (h : s.matchesExtension name = true) :
    Path.isName name = true ∧ name ≠ "." ∧ name ≠ ".." := by
  have hnone : ∀ step ∈ ["", ".", ".."], Path.extension? step = none := by decide
  have hne : ∀ step ∈ ["", ".", ".."], name ≠ step := by
    rintro step hmem rfl
    rw [Settings.matchesExtension, Path.hasExtension, hnone _ hmem] at h
    exact absurd h (by simp)
  exact ⟨Path.isName_iff.mpr ⟨hne _ (by decide), hslash⟩, hne _ (by decide), hne _ (by decide)⟩

/-! ## 3. What is taken -/

/-- A text is the name of a definition file if it is that of a file that matches the glob, and the
extension holds no full stop. -/
theorem isDefinitionFile_text_iff {dir : Location} {name : String} :
    IsDefinitionFile s t dir name ↔
      '.' ∉ s.fileExtension.toList ∧ MatchesGlob s.fileExtension name ∧
        TakesName s.inputDir name ∧
        ∃ content executable, t.get? (FileName.text name :: dir) =
          some (.file content executable) := by
  constructor
  · rintro ⟨hname, hfile, hvisible, hext, htaken⟩
    obtain ⟨hdot, stem, -, hstem⟩ :=
      exists_stem_of_nameExtension? (Path.nameExtension?_eq_some_iff.mpr hext)
    exact ⟨hdot, ⟨hname, hvisible name rfl, stem, hstem⟩, htaken, hfile⟩
  · rintro ⟨hdot, hglob, htaken, hfile⟩
    refine ⟨hglob.isName, hfile, ?_, ?_, htaken⟩
    · rintro letters heq
      obtain rfl := FileName.text.inj heq
      exact hglob.visible
    · exact Path.nameExtension?_eq_some_iff.mp (hglob.nameExtension?_iff.mpr hdot)

/-- A name that is no text is that of a definition file if its bytes end in a full stop and the
extension, and this holds no full stop. -/
theorem isDefinitionFile_garble_iff {dir : Location} {name : Garble} :
    IsDefinitionFile s t dir (.garble name) ↔
      '.' ∉ s.fileExtension.toList ∧
        (∃ stem, stem ≠ [] ∧ name.bytes = stem ++ 0x2E :: Text.utf8 s.fileExtension) ∧
        (FileName.garble name).isName = true ∧ TakesName s.inputDir (.garble name) ∧
        ∃ content executable, t.get? (.garble name :: dir) = some (.file content executable) := by
  constructor
  · rintro ⟨hname, hfile, -, ⟨stem, hstem, hbytes, hdot⟩, htaken⟩
    exact ⟨hdot, ⟨stem, hstem, hbytes⟩, hname, htaken, hfile⟩
  · rintro ⟨hdot, ⟨stem, hstem, hbytes⟩, hname, htaken, hfile⟩
    exact ⟨hname, hfile, nofun, ⟨stem, hstem, hbytes, hdot⟩, htaken⟩

/-- **Which files are taken for definition files.**  A visible name that ends in a full stop and the
extension is taken exactly if the extension holds no full stop; no other name is taken.  So what a
pass finds are the files that match the glob, or nothing at all.  The glob is for texts; files with
other names are found by the end of their bytes, and none if the extension holds a full stop. -/
theorem matchesExtension_glob (s : Settings) :
    (∀ stem, stem ≠ "" → stem.toList.head? ≠ some '.' →
      '/' ∉ (stem ++ "." ++ s.fileExtension).toList →
        (s.matchesExtension (stem ++ "." ++ s.fileExtension) = true ↔
          '.' ∉ s.fileExtension.toList)) ∧
    (∀ name : String, '/' ∉ name.toList → s.matchesExtension name = true →
      ∃ stem, stem ≠ "" ∧ name = stem ++ "." ++ s.fileExtension) ∧
    ∀ t items, t.list s.inputDir = .ok items →
      ∃ inputs, discover s t = .ok inputs ∧
        (∀ path : String, .text path ∈ inputs ↔
          '.' ∉ s.fileExtension.toList ∧ ∃ (name : String) (content : Content) (executable : Bool),
            (.text name, .file content executable) ∈ items ∧ MatchesGlob s.fileExtension name ∧
              TakesName s.inputDir name ∧ path = Path.join s.inputDir name) ∧
        ∀ (dir : String) (name : Garble), .garbled dir name ∈ inputs ↔
          '.' ∉ s.fileExtension.toList ∧ ∃ (content : Content) (executable : Bool),
            (.garble name, .file content executable) ∈ items ∧
              (∃ stem, stem ≠ [] ∧ name.bytes = stem ++ 0x2E :: Text.utf8 s.fileExtension) ∧
                TakesName s.inputDir (.garble name) ∧ dir = s.inputDir := by
  refine ⟨fun stem hstem hvisible hslash => ?_, fun name hslash hmatches => ?_,
    fun t items hitems => ?_⟩
  · have hglob := matchesGlob_append hstem hvisible hslash
    obtain ⟨hname, hdot, hdots⟩ := isName_of_matchesGlob hglob
    rw [matchesExtension_of_isName hname hdot hdots, hglob.nameExtension?_iff]
  · obtain ⟨hname, hdot, hdots⟩ := isName_of_matchesExtension hslash hmatches
    exact (exists_stem_of_nameExtension?
      ((matchesExtension_of_isName hname hdot hdots).mp hmatches)).2
  · obtain ⟨dir, hwalk, hdir, rfl⟩ := list_eq_ok hitems
    obtain ⟨names, hnames, hinputs⟩ := areInputs_of_perm hwalk hdir (.refl _)
    have hmem (name : FileName) : name ∈ names ↔ IsDefinitionFile s t dir name :=
      (hnames.mem_iff name).trans isInput_iff
    refine ⟨_, by rw [discover, hitems], fun path => ?_, fun front name => ?_⟩
    · rw [hinputs, Path.text_mem_map_child_iff]
      constructor
      · rintro ⟨name, hname, rfl⟩
        obtain ⟨hdot, hglob, htaken, content, executable, hfile⟩ :=
          isDefinitionFile_text_iff.mp ((hmem _).mp hname)
        exact ⟨hdot, name, content, executable, mem_children_iff.mpr ⟨hglob.isName, hfile⟩, hglob,
          htaken, rfl⟩
      · rintro ⟨hdot, name, content, executable, hlisted, hglob, htaken, rfl⟩
        have hfile := isDefinitionFile_text_iff.mpr
          ⟨hdot, hglob, htaken, content, executable, (mem_children_iff.mp hlisted).2⟩
        exact ⟨name, (hmem _).mpr hfile, rfl⟩
    · rw [hinputs, Path.garbled_mem_map_child_iff]
      constructor
      · rintro ⟨hname, rfl⟩
        obtain ⟨hdot, hends, hisName, htaken, content, executable, hfile⟩ :=
          isDefinitionFile_garble_iff.mp ((hmem _).mp hname)
        exact ⟨hdot, content, executable, mem_children_iff.mpr ⟨hisName, hfile⟩, hends, htaken, rfl⟩
      · rintro ⟨hdot, content, executable, hlisted, hends, htaken, rfl⟩
        obtain ⟨hisName, hget⟩ := mem_children_iff.mp hlisted
        have hfile := isDefinitionFile_garble_iff.mpr
          ⟨hdot, hends, hisName, htaken, content, executable, hget⟩
        exact ⟨(hmem _).mpr hfile, rfl⟩

/-! ## 4. An extension with a full stop

A directory holds one file, and its name matches the glob. -/

namespace DottedExtension

def settings : Settings :=
  { inputDir := "in", fileExtension := "d.ts", extractor := .declaration }

/-- What the directory of the inputs holds. -/
def items : List (FileName × Entry) :=
  [("A.d.ts", .file (.text "class A { int x; }") false)]

def tree : FileTree := .holding items

theorem lists : tree.list settings.inputDir = .ok items := by
  decide +kernel

/-- The same with another extension, which holds no full stop. -/
def plain : Settings :=
  { settings with fileExtension := "ts" }

end DottedExtension

/-- Settings whose extension is the part behind the last full stop find the file. -/
theorem matchesExtension_glob_plain :
    DottedExtension.tree.list DottedExtension.plain.inputDir = .ok DottedExtension.items ∧
      DottedExtension.plain.matchesExtension ("A.d" ++ "." ++ "ts") = true ∧
      (∃ stem, stem ≠ "" ∧ "A.d.ts" = stem ++ "." ++ "ts") ∧
      ∃ inputs, discover DottedExtension.plain DottedExtension.tree = .ok inputs ∧
        .text "in/A.d.ts" ∈ inputs := by
  obtain ⟨htakes, hends, hfinds⟩ := matchesExtension_glob DottedExtension.plain
  have hmatches : DottedExtension.plain.matchesExtension ("A.d" ++ "." ++ "ts") = true :=
    (htakes "A.d" (by decide) (by decide) (by decide)).mpr (by decide)
  have hglob : MatchesGlob DottedExtension.plain.fileExtension "A.d.ts" :=
    ⟨by decide, by decide, "A.d", by decide⟩
  obtain ⟨inputs, hinputs, hmem, -⟩ := hfinds _ _ DottedExtension.lists
  refine ⟨DottedExtension.lists, hmatches, hends _ (by decide) hmatches, inputs, hinputs, ?_⟩
  exact (hmem _).mpr ⟨by decide, "A.d.ts", _, _, List.mem_cons_self, hglob,
    ⟨by decide +kernel, by decide +kernel⟩, by decide +kernel⟩

/-- **Settings that are not at fault and find nothing**: the extension is `d.ts`, and the only file
is `A.d.ts`, which the settings are said to take when they are checked. -/
theorem discover_dottedExtension :
    DottedExtension.settings.fault? = none ∧
      (Program.description DottedExtension.settings).head? = some "✓ Input: in/*.d.ts" ∧
      MatchesGlob DottedExtension.settings.fileExtension ("A" ++ "." ++ "d.ts") ∧
      DottedExtension.settings.matchesExtension ("A" ++ "." ++ "d.ts") = false ∧
      DottedExtension.tree.list DottedExtension.settings.inputDir =
        .ok [("A.d.ts", .file (.text "class A { int x; }") false)] ∧
      discover DottedExtension.settings DottedExtension.tree = .ok [] := by
  refine ⟨by decide, by decide, ⟨by decide, by decide, "A", rfl⟩, by decide +kernel,
    DottedExtension.lists, ?_⟩
  have hnone : (DottedExtension.items.map Prod.fst).filter
      (DottedExtension.settings.selects DottedExtension.tree) = [] := by
    decide +kernel
  exact discover_of_pairwise DottedExtension.lists hnone .nil

end SeriesSchema
