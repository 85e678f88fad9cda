import SeriesSchema.FileTree
import SeriesSchema.Proofs.Paths

/-!
# Walks through trees

A path is walked step by step, and each step asks only whether a directory stands where it is taken.
So what a path leads to depends on the directories of a tree alone, and a tree that keeps the
directories of another one keeps its walks (`Keeps.walk`).

1. single steps;
2. walks;
3. trees that keep directories;
4. the path of a name in a directory: where it leads, what is read there, and what is listed.
-/

namespace SeriesSchema.FileTree

/-! ## 1. Steps -/

theorem enter_eq_ok {t : FileTree} {place : Location} :
    t.enter place = .ok () ↔ t.get? place = some .directory := by
  unfold enter
  split <;> simp_all

/-- A path is taken if it is not empty, not too long, and not ended early. -/
theorem accept_eq_ok {path : Path} :
    accept path = .ok () ↔
      path.holdsNul = false ∧ path.isEmpty = false ∧ path.size ≤ maxPath := by
  rw [accept]
  by_cases hnul : path.holdsNul = true
  · simp [hnul]
  by_cases hempty : path.isEmpty = true
  · simp [hnul, hempty]
  by_cases hlong : maxPath < path.size
  · have : ¬ path.size ≤ maxPath := by omega
    simp [hnul, hempty, hlong, this]
  · have : path.size ≤ maxPath := by omega
    simp [hnul, hempty, hlong, this]

/-- A step leads somewhere if it is taken from a directory: it stays, goes up, or goes to a name
that is not too long. -/
theorem step_eq_ok {t : FileTree} {place next : Location} {name : FileName} :
    t.step place name = .ok next ↔
      t.get? place = some .directory ∧
        (name = "." ∧ next = place ∨ name ≠ "." ∧ name = ".." ∧ next = place.tail ∨
          name ≠ "." ∧ name ≠ ".." ∧ name.size ≤ maxName ∧ next = name :: place) := by
  rw [step]
  cases hdir : t.enter place with
  | error reason =>
    have : t.get? place ≠ some .directory := fun h => by rw [enter_eq_ok.mpr h] at hdir; cases hdir
    simp [this]
  | ok =>
    rw [enter_eq_ok] at hdir
    by_cases hdot : name = "."
    · simp [hdir, hdot, eq_comm]
    by_cases hdots : name = ".."
    · simp [hdir, hdots, eq_comm]
    by_cases hlong : maxName < name.size
    · have : ¬ name.size ≤ maxName := by omega
      simp [hdot, hdots, hlong, this]
    · have : name.size ≤ maxName := by omega
      simp [hdir, hdot, hdots, hlong, this, eq_comm]

/-- The same for a name that is a text. -/
theorem step_text_eq_ok {t : FileTree} {place next : Location} {name : String} :
    t.step place name = .ok next ↔
      t.get? place = some .directory ∧
        (name = "." ∧ next = place ∨ name ≠ "." ∧ name = ".." ∧ next = place.tail ∨
          name ≠ "." ∧ name ≠ ".." ∧ name.utf8ByteSize ≤ maxName ∧
            next = FileName.text name :: place) := by
  rw [step_eq_ok]
  simp only [ne_eq, FileName.text.injEq, FileName.size]

/-- Steps are taken from directories only. -/
theorem isDirectory_of_step {t : FileTree} {place next : Location} {name : FileName}
    (h : t.step place name = .ok next) : t.get? place = some .directory :=
  (step_eq_ok.mp h).1

/-- A step to a name leads to that name. -/
theorem step_name {t : FileTree} {place next : Location} {name : FileName} (hdot : name ≠ ".")
    (hdots : name ≠ "..") (h : t.step place name = .ok next) : next = name :: place := by
  rcases (step_eq_ok.mp h).2 with ⟨heq, -⟩ | ⟨-, heq, -⟩ | ⟨-, -, -, heq⟩
  · exact absurd heq hdot
  · exact absurd heq hdots
  · exact heq

/-- From a directory a step comes to the same in every tree. -/
theorem step_congr {t u : FileTree} {place : Location} (name : FileName)
    (ht : t.get? place = some .directory) (hu : u.get? place = some .directory) :
    t.step place name = u.step place name := by
  rw [step, step, enter_eq_ok.mpr ht, enter_eq_ok.mpr hu]

/-! ## 2. Walks -/

theorem walk_cons_eq_ok {t : FileTree} {place last : Location} {name : String}
    {names : List String} :
    t.walk place (name :: names) = .ok last ↔
      ∃ next, t.step place name = .ok next ∧ t.walk next names = .ok last := by
  rw [walk]
  cases t.step place name with
  | error reason => simp
  | ok next => simp

theorem walk_append {t : FileTree} {place next : Location} {names : List String}
    (h : t.walk place names = .ok next) (more : List String) :
    t.walk place (names ++ more) = t.walk next more := by
  induction names generalizing place with
  | nil =>
    obtain rfl : place = next := by simpa [walk] using h
    rfl
  | cons name names ih =>
    obtain ⟨mid, hstep, hwalk⟩ := walk_cons_eq_ok.mp h
    rw [List.cons_append, walk, hstep]
    exact ih hwalk

theorem walk_append_of_error {t : FileTree} {place : Location} {names : List String}
    {reason : Reason} (h : t.walk place names = .error reason) (more : List String) :
    t.walk place (names ++ more) = .error reason := by
  induction names generalizing place with
  | nil => cases h
  | cons name names ih =>
    rw [walk] at h
    rw [List.cons_append, walk]
    split at h
    · exact h
    · exact ih h

/-- A walk that arrives has passed the end of each of its first parts. -/
theorem walk_append_eq_ok {t : FileTree} {place last : Location} {names more : List String}
    (h : t.walk place (names ++ more) = .ok last) :
    ∃ next, t.walk place names = .ok next ∧ t.walk next more = .ok last := by
  induction names generalizing place with
  | nil => exact ⟨place, rfl, h⟩
  | cons name names ih =>
    obtain ⟨mid, hstep, hwalk⟩ := walk_cons_eq_ok.mp h
    obtain ⟨next, hnames, hmore⟩ := ih hwalk
    exact ⟨next, walk_cons_eq_ok.mpr ⟨mid, hstep, hnames⟩, hmore⟩

/-- Steps that stay can be put back into a walk: if the names that are left without them lead
somewhere, some first part of all the names leads there. -/
theorem walk_of_prefix_filter {t : FileTree} {place last : Location} {names all : List String}
    (hpre : names <+: all.filter (· ≠ ".")) (h : t.walk place names = .ok last) :
    ∃ first, first <+: all ∧ t.walk place first = .ok last := by
  induction all generalizing place names with
  | nil =>
    obtain rfl : names = [] := by simpa using hpre
    exact ⟨[], List.prefix_rfl, h⟩
  | cons next all ih =>
    cases names with
    | nil => exact ⟨[], List.nil_prefix, h⟩
    | cons name names =>
      obtain ⟨mid, hstep, hwalk⟩ := walk_cons_eq_ok.mp h
      by_cases hdot : next = "."
      · -- the step that stays is possible, since the next one is
        rw [List.filter_cons_of_neg (by simpa using hdot)] at hpre
        obtain ⟨first, hfirst, hlast⟩ := ih hpre h
        have hstay : t.step place next = .ok place :=
          step_text_eq_ok.mpr ⟨isDirectory_of_step hstep, Or.inl ⟨hdot, rfl⟩⟩
        exact ⟨next :: first, List.cons_prefix_cons.mpr ⟨rfl, hfirst⟩,
          walk_cons_eq_ok.mpr ⟨place, hstay, hlast⟩⟩
      · rw [List.filter_cons_of_pos (by simpa using hdot)] at hpre
        obtain ⟨heq, hmore⟩ := List.cons_prefix_cons.mp hpre
        obtain ⟨first, hfirst, hlast⟩ := ih hmore hwalk
        exact ⟨name :: first, List.cons_prefix_cons.mpr ⟨heq, hfirst⟩,
          walk_cons_eq_ok.mpr ⟨mid, hstep, hlast⟩⟩

/-! ## 3. Trees that keep directories -/

/-- A later tree has the directories of an earlier one, and paths start where they did. -/
structure Keeps (before after : FileTree) : Prop where
  here : after.here = before.here
  directory : ∀ place, before.get? place = some .directory → after.get? place = some .directory

namespace Keeps

variable {t u v : FileTree}

protected theorem refl (t : FileTree) : t.Keeps t :=
  ⟨rfl, fun _ h => h⟩

protected theorem trans (h : t.Keeps u) (h' : u.Keeps v) : t.Keeps v :=
  ⟨h'.here.trans h.here, fun place hp => h'.directory place (h.directory place hp)⟩

theorem start (h : t.Keeps u) (path : String) : u.start path = t.start path := by
  rw [FileTree.start, FileTree.start, h.here]

/-- **A walk that arrived still arrives**, and at the same place. -/
theorem walk (h : t.Keeps u) {place last : Location} {names : List String}
    (hwalk : t.walk place names = .ok last) : u.walk place names = .ok last := by
  induction names generalizing place with
  | nil => exact hwalk
  | cons name names ih =>
    obtain ⟨next, hstep, hrest⟩ := walk_cons_eq_ok.mp hwalk
    have hdir := isDirectory_of_step hstep
    rw [step_congr name hdir (h.directory place hdir)] at hstep
    exact walk_cons_eq_ok.mpr ⟨next, hstep, ih hrest⟩

theorem walk_start (h : t.Keeps u) {path : String} {place : Location} {names : List String}
    (hwalk : t.walk (t.start path) names = .ok place) :
    u.walk (u.start path) names = .ok place := by
  rw [h.start]
  exact h.walk hwalk

theorem step (h : t.Keeps u) {place next : Location} {name : FileName}
    (hstep : t.step place name = .ok next) : u.step place name = .ok next := by
  have hdir := isDirectory_of_step hstep
  rw [← step_congr name hdir (h.directory place hdir)]
  exact hstep

theorem follow (h : t.Keeps u) {path : Path} {place : Location}
    (hpath : t.follow path = .ok place) : u.follow path = .ok place := by
  cases path with
  | text path => exact h.walk_start hpath
  | garbled dir name =>
    rw [FileTree.follow] at hpath ⊢
    split at hpath
    · cases hpath
    · rename_i below hwalk
      rw [h.walk_start hwalk]
      exact h.step hpath

theorem resolve (h : t.Keeps u) {path : Path} {place : Location}
    (hpath : t.resolve path = .ok place) : u.resolve path = .ok place := by
  rw [FileTree.resolve] at hpath ⊢
  split at hpath
  · cases hpath
  · exact h.follow hpath

end Keeps

/-! ## 4. Names in a directory -/

section Child

variable {t u : FileTree} {dir : String} {name : FileName} {below : Location}

/-- To follow the path of a name in a directory is to go as far as the directory, and one step
further. -/
theorem follow_child (t : FileTree) (dir : String) (hname : name.isName = true) :
    t.follow (Path.child dir name) =
      match t.walk (t.start dir) (Path.parts dir) with
      | .error reason => .error reason
      | .ok below => t.step below name := by
  cases name with
  | garble name => rfl
  | text name =>
    have hstart : t.start (Path.join dir name) = t.start dir := by
      rw [start, start, Path.isAbsolute_join hname]
    rw [Path.child, follow, Path.steps_join hname, hstart]
    cases hwalk : t.walk (t.start dir) (Path.parts dir) with
    | error reason => exact walk_append_of_error hwalk [name]
    | ok below =>
      rw [walk_append hwalk, walk]
      dsimp only
      cases t.step below name with
      | error reason => rfl
      | ok next => rfl

/-- **The path of a name in a directory** leads as far as the directory, and one step further. -/
theorem resolve_child (hname : name.isName = true)
    (hwalk : t.walk (t.start dir) (Path.parts dir) = .ok below) :
    t.resolve (Path.child dir name) =
      match accept (Path.child dir name) with
      | .error reason => .error reason
      | .ok () => t.step below name := by
  have hfollow : t.follow (Path.child dir name) = t.step below name := by
    simp only [follow_child t dir hname, hwalk]
  unfold resolve
  cases accept (Path.child dir name) with
  | error reason => rfl
  | ok => exact hfollow

/-- If such a path leads anywhere, it is to the name in a directory. -/
theorem resolve_child_eq_ok (hname : name.isName = true) (hdot : name ≠ ".")
    (hdots : name ≠ "..") {place : Location}
    (h : t.resolve (Path.child dir name) = .ok place) :
    ∃ below, t.walk (t.start dir) (Path.parts dir) = .ok below ∧
      t.get? below = some .directory ∧ place = name :: below := by
  rw [resolve, follow_child t dir hname] at h
  split at h
  · cases h
  · split at h
    · cases h
    · rename_i below hwalk
      exact ⟨below, hwalk, isDirectory_of_step h, step_name hdot hdots h⟩

/-- Where such a path leads, and whether it does, is the same in all trees in which the directory is
at the same place. -/
theorem resolve_child_congr (hname : name.isName = true)
    (ht : t.walk (t.start dir) (Path.parts dir) = .ok below)
    (hu : u.walk (u.start dir) (Path.parts dir) = .ok below)
    (hdir : t.get? below = some .directory) (hdir' : u.get? below = some .directory) :
    t.resolve (Path.child dir name) = u.resolve (Path.child dir name) := by
  rw [resolve_child hname ht, resolve_child hname hu, step_congr name hdir hdir']

/-- What is read at a path depends on where it leads and on what stands there. -/
theorem read_congr {path : Path} (hpath : t.resolve path = u.resolve path)
    (hget : ∀ place, u.resolve path = .ok place → t.get? place = u.get? place) :
    t.read path = u.read path := by
  have hlookup : t.lookup path = u.lookup path := by
    rw [lookup, lookup, hpath]
    cases hplace : u.resolve path with
    | error reason => rfl
    | ok place => simp only [hget place hplace]
  rw [read, read, hlookup]

/-- What is read at the path of a name in a directory depends on the entry of the name. -/
theorem read_child_congr (hname : name.isName = true) (hdot : name ≠ ".") (hdots : name ≠ "..")
    (ht : t.walk (t.start dir) (Path.parts dir) = .ok below)
    (hu : u.walk (u.start dir) (Path.parts dir) = .ok below)
    (hdir : t.get? below = some .directory) (hdir' : u.get? below = some .directory)
    (hget : t.get? (name :: below) = u.get? (name :: below)) :
    t.read (Path.child dir name) = u.read (Path.child dir name) := by
  refine read_congr (resolve_child_congr hname ht hu hdir hdir') fun place hplace => ?_
  obtain ⟨place', hwalk, -, rfl⟩ := resolve_child_eq_ok hname hdot hdots hplace
  obtain rfl : below = place' := by
    rw [hu] at hwalk
    exact Except.ok.inj hwalk
  exact hget

/-- Whether the system takes a name in a directory: neither the name nor its path is too long, and
nothing ends the path early. -/
structure TakesName (dir : String) (name : FileName) : Prop where
  path : accept (Path.child dir name) = .ok ()
  name : name.size ≤ maxName

/-- Such a path leads to a file if there is one of that name, and the system takes the name. -/
theorem isFile_child (hname : name.isName = true) (hdot : name ≠ ".") (hdots : name ≠ "..")
    (hwalk : t.walk (t.start dir) (Path.parts dir) = .ok below)
    (hdir : t.get? below = some .directory) :
    t.isFile (Path.child dir name) = true ↔
      TakesName dir name ∧
        ∃ content executable, t.get? (name :: below) = some (.file content executable) := by
  rw [isFile, lookup, resolve_child hname hwalk]
  constructor
  · intro h
    cases haccept : accept (Path.child dir name) with
    | error reason => simp [haccept] at h
    | ok =>
      rw [haccept] at h
      cases hstep : t.step below name with
      | error reason => simp [hstep] at h
      | ok next =>
        have hshort : name.size ≤ maxName := by
          rcases (step_eq_ok.mp hstep).2 with ⟨heq, -⟩ | ⟨-, heq, -⟩ | ⟨-, -, hshort, -⟩
          · exact absurd heq hdot
          · exact absurd heq hdots
          · exact hshort
        obtain rfl := step_name hdot hdots hstep
        simp only [hstep] at h
        cases hget : t.get? (name :: below) with
        | none => simp [hget] at h
        | some entry =>
          cases entry with
          | directory => simp [hget] at h
          | file content executable => exact ⟨⟨haccept, hshort⟩, content, executable, rfl⟩
  · rintro ⟨⟨haccept, hshort⟩, content, executable, hget⟩
    have hstep : t.step below name = .ok (name :: below) :=
      step_eq_ok.mpr ⟨hdir, Or.inr (Or.inr ⟨hdot, hdots, hshort, rfl⟩)⟩
    simp [haccept, hstep, hget]

/-- What is listed is what a directory holds, and the path leads to it. -/
theorem list_eq_ok {items : List (FileName × Entry)} (h : t.list dir = .ok items) :
    ∃ place, t.walk (t.start dir) (Path.parts dir) = .ok place ∧
      t.get? place = some .directory ∧ items = t.children place := by
  rw [list] at h
  split at h
  · cases h
  · rename_i place hresolve
    split at h
    · cases h
    · rename_i henter
      have hdir := enter_eq_ok.mp henter
      rw [resolve, follow, Path.steps] at hresolve
      split at hresolve
      · cases hresolve
      · obtain ⟨next, hwalk, hlast⟩ := walk_append_eq_ok hresolve
        -- a slash at the end is a step that stays
        have hsame : next = place := by
          split at hlast
          · obtain ⟨stay, hstep, hnil⟩ := walk_cons_eq_ok.mp hlast
            rcases (step_text_eq_ok.mp hstep).2 with ⟨-, rfl⟩ | ⟨hne, -⟩ | ⟨hne, -⟩
            · simpa [walk] using hnil
            · exact absurd rfl hne
            · exact absurd rfl hne
          · simpa [walk] using hlast
        rw [hsame] at hwalk
        exact ⟨place, hwalk, hdir, (Except.ok.inj h).symm⟩

end Child

section Join

/-! The same for a name that is a text, as that of a schema file. -/

variable {t u : FileTree} {dir name : String} {below : Location}

theorem resolve_join_eq_ok (hname : Path.isName name = true) (hdot : name ≠ ".")
    (hdots : name ≠ "..") {place : Location} (h : t.resolve (Path.join dir name) = .ok place) :
    ∃ below, t.walk (t.start dir) (Path.parts dir) = .ok below ∧
      t.get? below = some .directory ∧ place = FileName.text name :: below := by
  have htext : (FileName.text name).isName = true := hname
  have hchild : t.resolve (Path.child dir (.text name)) = .ok place := h
  exact resolve_child_eq_ok htext (by simpa using hdot) (by simpa using hdots) hchild

theorem resolve_join_congr (hname : Path.isName name = true)
    (ht : t.walk (t.start dir) (Path.parts dir) = .ok below)
    (hu : u.walk (u.start dir) (Path.parts dir) = .ok below)
    (hdir : t.get? below = some .directory) (hdir' : u.get? below = some .directory) :
    t.resolve (Path.join dir name) = u.resolve (Path.join dir name) := by
  have htext : (FileName.text name).isName = true := hname
  exact resolve_child_congr htext ht hu hdir hdir'

end Join

end SeriesSchema.FileTree
