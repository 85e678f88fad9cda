import SeriesSchema.Generation
import SeriesSchema.Proofs.Walks

/-!
# Inputs

Which files a pass reads.  If the input directory can be listed, its inputs are the names in it that
satisfy `IsInput`, each once and in the order of their bytes (`discover_eq_ok`).  This fixes the
list (`names_unique`): it does not depend on the order in which the directory is listed, nor on what
the files hold (`discover_of_keeps`).
-/

namespace SeriesSchema

/-! ## 1. What a directory holds -/

namespace FileTree

theorem find?_eq_some_iff {place : Location} {entry : Entry} {l : List (Location × Entry)}
    (hnodup : (l.map Prod.fst).Nodup) : find? place l = some entry ↔ (place, entry) ∈ l := by
  induction l with
  | nil => simp [find?]
  | cons p more ih =>
    obtain ⟨q, e⟩ := p
    rw [List.map_cons, List.nodup_cons] at hnodup
    rw [find?, List.mem_cons]
    split
    · rename_i heq
      subst heq
      constructor
      · intro h
        exact Or.inl (by rw [Option.some.inj h])
      · rintro (h | h)
        · simpa using h.symm
        · exact absurd (List.mem_map_of_mem h) hnodup.1
    · rename_i hne
      rw [ih hnodup.2]
      constructor
      · exact Or.inr
      · rintro (h | h)
        · exact absurd (Prod.mk.inj h).1.symm hne
        · exact h

/-- A directory holds what stands at the names below it. -/
theorem mem_children_iff {t : FileTree} {dir : Location} {name : FileName} {entry : Entry} :
    (name, entry) ∈ t.children dir ↔
      name.isName = true ∧ t.get? (name :: dir) = some entry := by
  rw [get?, if_neg (List.cons_ne_nil name dir), find?_eq_some_iff t.nodup, children,
    List.mem_filterMap]
  constructor
  · rintro ⟨⟨place, e⟩, hmem, heq⟩
    split at heq
    · rename_i n above hplace
      obtain rfl : place = n :: above := hplace
      split at heq
      · rename_i hname
        obtain ⟨rfl, rfl⟩ : n = name ∧ e = entry := by simpa using heq
        obtain ⟨rfl, hname⟩ := hname
        exact ⟨hname, hmem⟩
      · cases heq
    · cases heq
  · rintro ⟨hname, hmem⟩
    exact ⟨(name :: dir, entry), hmem, by simp [hname]⟩

/-- No name is listed twice. -/
theorem nodup_children (t : FileTree) (dir : Location) :
    ((t.children dir).map Prod.fst).Nodup := by
  have hentries := t.nodup
  rw [List.Nodup, List.pairwise_map] at hentries ⊢
  refine List.Pairwise.filterMap _ (fun p q hne a ha b hb hab => hne ?_) hentries
  -- what is listed under one name stands at one place, at that name below `dir`
  split at ha
  · rename_i n above hp
    split at hb
    · rename_i m above' hq
      obtain ⟨⟨rfl, -⟩, ⟨⟩⟩ := Option.ite_none_right_eq_some.mp ha
      obtain ⟨⟨rfl, -⟩, ⟨⟩⟩ := Option.ite_none_right_eq_some.mp hb
      obtain rfl : n = m := hab
      rw [hp, hq]
    · cases hb
  · cases ha

end FileTree

/-! ## 2. The inputs -/

/-- Whether a name in the input directory, which is at `dir`, is an input: that of a file that is
not hidden, has the extension in question and can be reached by its path. -/
structure IsInput (s : Settings) (t : FileTree) (dir : Location) (name : FileName) : Prop where
  isName : name.isName = true
  notHidden : isHidden name = false
  extension : name.hasExtension s.fileExtension = true
  taken : FileTree.TakesName s.inputDir name
  file : ∃ content executable, t.get? (name :: dir) = some (.file content executable)

/-- A name that is not hidden is no step that stays or goes up. -/
theorem ne_dots_of_not_isHidden {name : FileName} (h : isHidden name = false) :
    name ≠ "." ∧ name ≠ ".." := by
  constructor
  · rintro rfl
    exact absurd h (by decide)
  · rintro rfl
    exact absurd h (by decide)

/-- **A name in the input directory is selected** if it is an input. -/
theorem selects_iff {s : Settings} {t : FileTree} {dir : Location} {name : FileName}
    (hwalk : t.walk (t.start s.inputDir) (Path.parts s.inputDir) = .ok dir)
    (hdir : t.get? dir = some .directory) (hname : name.isName = true) :
    s.selects t name = true ↔ IsInput s t dir name := by
  rw [Settings.selects, Bool.and_eq_true, Bool.and_eq_true, Bool.not_eq_true',
    Settings.matchesExtension]
  constructor
  · rintro ⟨⟨hhidden, hfile⟩, hext⟩
    obtain ⟨hdot, hdots⟩ := ne_dots_of_not_isHidden hhidden
    obtain ⟨htaken, hfile⟩ := (FileTree.isFile_child hname hdot hdots hwalk hdir).mp hfile
    rw [Path.hasExtension_child hname hdot hdots] at hext
    exact ⟨hname, hhidden, hext, htaken, hfile⟩
  · rintro ⟨-, hhidden, hext, htaken, hfile⟩
    obtain ⟨hdot, hdots⟩ := ne_dots_of_not_isHidden hhidden
    rw [Path.hasExtension_child hname hdot hdots]
    exact ⟨⟨hhidden, (FileTree.isFile_child hname hdot hdots hwalk hdir).mpr ⟨htaken, hfile⟩⟩,
      hext⟩

/-- A list of names is that of the inputs in the directory at `dir`. -/
structure AreInputs (s : Settings) (t : FileTree) (dir : Location) (names : List FileName) :
    Prop where
  mem_iff : ∀ name, name ∈ names ↔ IsInput s t dir name
  nodup : names.Nodup
  ordered : names.Pairwise fun a b => a.bytes ≤ b.bytes

/-- What is selected among the entries of the input directory, in whatever order they come, are the
inputs in their order. -/
theorem areInputs_of_perm {s : Settings} {t : FileTree} {dir : Location}
    {items : List (FileName × Entry)}
    (hwalk : t.walk (t.start s.inputDir) (Path.parts s.inputDir) = .ok dir)
    (hdir : t.get? dir = some .directory) (hitems : items.Perm (t.children dir)) :
    ∃ names, AreInputs s t dir names ∧
      s.inputsAmong t items = names.map (Path.child s.inputDir) := by
  refine ⟨_, ⟨fun name => ?_, ?_, ?_⟩, rfl⟩
  · rw [List.mem_mergeSort, List.mem_filter, List.mem_map]
    constructor
    · rintro ⟨⟨⟨n, entry⟩, hmem, rfl⟩, hselects⟩
      have hname := (FileTree.mem_children_iff.mp (hitems.mem_iff.mp hmem)).1
      exact (selects_iff hwalk hdir hname).mp hselects
    · intro hinput
      obtain ⟨content, executable, hget⟩ := hinput.file
      have hmem := FileTree.mem_children_iff.mpr ⟨hinput.isName, hget⟩
      exact ⟨⟨_, hitems.mem_iff.mpr hmem, rfl⟩, (selects_iff hwalk hdir hinput.isName).mpr hinput⟩
  · rw [(List.mergeSort_perm _ _).nodup_iff]
    exact ((hitems.map Prod.fst).nodup_iff.mpr (t.nodup_children dir)).sublist List.filter_sublist
  · have hsorted : ∀ names : List FileName, List.Pairwise
        (fun a b => decide (a.bytes ≤ b.bytes) = true)
        (names.mergeSort fun a b => decide (a.bytes ≤ b.bytes)) := by
      refine List.pairwise_mergeSort (fun a b c hab hbc => ?_) fun a b => ?_
      · rw [decide_eq_true_eq] at hab hbc ⊢
        exact List.le_trans hab hbc
      · rw [Bool.or_eq_true, decide_eq_true_eq, decide_eq_true_eq]
        exact List.le_total _ _
    exact (hsorted _).imp fun hab => of_decide_eq_true hab

/-- **The inputs of a pass** are the names of the input directory that are inputs, in their
order. -/
theorem discover_eq_ok {s : Settings} {t : FileTree} {inputs : List Path}
    (h : discover s t = .ok inputs) :
    ∃ dir names, t.walk (t.start s.inputDir) (Path.parts s.inputDir) = .ok dir ∧
      t.get? dir = some .directory ∧ AreInputs s t dir names ∧
        inputs = names.map (Path.child s.inputDir) := by
  rw [discover] at h
  split at h
  · rename_i items hitems
    obtain ⟨dir, hwalk, hdir, rfl⟩ := FileTree.list_eq_ok hitems
    obtain ⟨names, hnames, hinputs⟩ := areInputs_of_perm hwalk hdir (.refl _)
    exact ⟨dir, names, hwalk, hdir, hnames, (Except.ok.inj h).symm.trans hinputs⟩
  · cases h

/-- Whether a path is that of an input: it joins the input directory and the name of one. -/
def IsInputPath (s : Settings) (t : FileTree) (path : Path) : Prop :=
  ∃ dir name, t.walk (t.start s.inputDir) (Path.parts s.inputDir) = .ok dir ∧
    t.get? dir = some .directory ∧ IsInput s t dir name ∧ path = Path.child s.inputDir name

theorem isInputPath_of_discover {s : Settings} {t : FileTree} {inputs : List Path}
    (h : discover s t = .ok inputs) : ∀ path ∈ inputs, IsInputPath s t path := by
  obtain ⟨dir, names, hwalk, hdir, hnames, rfl⟩ := discover_eq_ok h
  intro path hmem
  obtain ⟨name, hname, rfl⟩ := List.mem_map.mp hmem
  exact ⟨dir, name, hwalk, hdir, (hnames.mem_iff name).mp hname, rfl⟩

/-- An input is read alike on a tree that keeps the directories and has the same file there. -/
theorem read_input_congr {s : Settings} {t u : FileTree} {dir : Location} {name : FileName}
    (hkeeps : t.Keeps u) (hwalk : t.walk (t.start s.inputDir) (Path.parts s.inputDir) = .ok dir)
    (hdir : t.get? dir = some .directory) (hinput : IsInput s t dir name)
    (hsame : u.get? (name :: dir) = t.get? (name :: dir)) :
    u.read (Path.child s.inputDir name) = t.read (Path.child s.inputDir name) := by
  obtain ⟨hdot, hdots⟩ := ne_dots_of_not_isHidden hinput.notHidden
  exact FileTree.read_child_congr hinput.isName hdot hdots (hkeeps.walk_start hwalk) hwalk
    (hkeeps.directory dir hdir) hdir hsame

/-- Inputs are read alike on every tree that keeps the directories and has all the same inputs. -/
theorem read_of_keeps {s : Settings} {t u : FileTree} {path : Path} (hkeeps : t.Keeps u)
    (hpath : IsInputPath s t path)
    (hsame : ∀ dir name, IsInput s t dir name → u.get? (name :: dir) = t.get? (name :: dir)) :
    u.read path = t.read path := by
  obtain ⟨dir, name, hwalk, hdir, hinput, rfl⟩ := hpath
  exact read_input_congr hkeeps hwalk hdir hinput (hsame dir name hinput)

/-- No path is read twice. -/
theorem nodup_of_discover {s : Settings} {t : FileTree} {inputs : List Path}
    (h : discover s t = .ok inputs) : inputs.Nodup := by
  obtain ⟨dir, names, -, -, hnames, rfl⟩ := discover_eq_ok h
  have hdistinct := hnames.nodup
  rw [List.Nodup, List.pairwise_map]
  refine List.Pairwise.imp_of_mem (fun {a b} ha hb hne heq => hne ?_) hdistinct
  have ha' := (hnames.mem_iff a).mp ha
  have hb' := (hnames.mem_iff b).mp hb
  exact Path.child_inj ha'.isName hb'.isName heq

/-- If the names that are selected are listed in order, they are the inputs in this order. -/
theorem discover_of_pairwise {s : Settings} {t : FileTree} {items : List (FileName × Entry)}
    {names : List FileName} (hitems : t.list s.inputDir = .ok items)
    (hnames : (items.map Prod.fst).filter (s.selects t) = names)
    (hordered : names.Pairwise fun a b => decide (a.bytes ≤ b.bytes) = true) :
    discover s t = .ok (names.map (Path.child s.inputDir)) := by
  rw [discover, hitems]
  simp only [Settings.inputsAmong, hnames, List.mergeSort_of_pairwise hordered]

/-- There is one list of inputs only. -/
theorem names_unique {s : Settings} {t u : FileTree} {dir : Location} {names more : List FileName}
    (h : AreInputs s t dir names) (h' : AreInputs s u dir more)
    (hsame : ∀ name, IsInput s t dir name ↔ IsInput s u dir name) : names = more := by
  have hperm : names.Perm more := by
    rw [List.perm_ext_iff_of_nodup h.nodup h'.nodup]
    intro name
    rw [h.mem_iff, h'.mem_iff, hsame]
  refine List.Perm.eq_of_pairwise (fun a b _ _ hab hba => ?_) h.ordered h'.ordered hperm
  exact FileName.bytes_injective (List.le_antisymm hab hba)

/-- **A tree that keeps the directories and the inputs of another one** has the same inputs, in the
same order. -/
theorem discover_of_keeps {s : Settings} {t u : FileTree} {inputs : List Path}
    (hkeeps : t.Keeps u) (hsame : ∀ dir name, IsInput s t dir name ↔ IsInput s u dir name)
    (h : discover s t = .ok inputs) : discover s u = .ok inputs := by
  have hlisted : ∃ inputs', discover s u = .ok inputs' := by
    rw [discover, FileTree.list] at h ⊢
    cases hresolve : t.resolve s.inputDir with
    | error reason =>
      rw [hresolve] at h
      cases h
    | ok place =>
      rw [hresolve] at h
      rw [hkeeps.resolve hresolve]
      dsimp only at h ⊢
      cases henter : t.enter place with
      | error reason =>
        rw [henter] at h
        cases h
      | ok =>
        have hdir := hkeeps.directory place (FileTree.enter_eq_ok.mp henter)
        rw [FileTree.enter_eq_ok.mpr hdir]
        exact ⟨_, rfl⟩
  obtain ⟨inputs', hinputs'⟩ := hlisted
  obtain ⟨dir, names, hwalk, -, hnames, rfl⟩ := discover_eq_ok h
  obtain ⟨dir', names', hwalk', -, hnames', rfl⟩ := discover_eq_ok hinputs'
  rw [hkeeps.start, hkeeps.walk hwalk] at hwalk'
  obtain rfl : dir = dir' := Except.ok.inj hwalk'
  rw [hinputs', names_unique hnames hnames' (hsame dir)]

end SeriesSchema
