import SeriesSchema.Proofs.Walks

/-!
# Alike trees

Two trees are alike but for some hidden places if they show the same at every other place, and a
file each at the hidden ones; what these files hold may differ.  No walk can tell such trees apart,
since a file stops it whatever it holds.  So everything that is done to trees comes to the same in
both, and leaves them alike; only what is read at a hidden place may differ.

The operations are taken in the order in which they build on each other, with one lemma for each.
-/

namespace SeriesSchema.FileTree

/-! ## 1. The relation -/

/-- Whether a file stands at a place. -/
def HoldsFile (t : FileTree) (place : Location) : Prop :=
  ∃ content executable, t.get? place = some (.file content executable)

/-- The trees differ at most in what is held by files at hidden places. -/
structure AlikeBut (hidden : Location → Prop) (t u : FileTree) : Prop where
  here : t.here = u.here
  places : ∀ place, t.get? place = u.get? place ∨
    hidden place ∧ t.HoldsFile place ∧ u.HoldsFile place

/-- The results of a change are alike: the same error, or trees that are alike. -/
inductive AlikeResults (hidden : Location → Prop) :
    Except Reason FileTree → Except Reason FileTree → Prop
  | error (reason : Reason) : AlikeResults hidden (.error reason) (.error reason)
  | ok {t u : FileTree} : AlikeBut hidden t u → AlikeResults hidden (.ok t) (.ok u)

namespace AlikeBut

variable {hidden : Location → Prop} {t u : FileTree}

theorem get?_eq (h : AlikeBut hidden t u) {place : Location} (hplace : ¬ hidden place) :
    t.get? place = u.get? place := by
  rcases h.places place with heq | ⟨hhidden, -, -⟩
  · exact heq
  · exact absurd hhidden hplace

theorem holdsFile_iff (h : AlikeBut hidden t u) (place : Location) :
    t.HoldsFile place ↔ u.HoldsFile place := by
  rcases h.places place with heq | ⟨-, ht, hu⟩
  · rw [HoldsFile, HoldsFile, heq]
  · exact ⟨fun _ => hu, fun _ => ht⟩

theorem directory_iff (h : AlikeBut hidden t u) (place : Location) :
    t.get? place = some .directory ↔ u.get? place = some .directory := by
  rcases h.places place with heq | ⟨-, ⟨_, _, ht⟩, _, _, hu⟩
  · rw [heq]
  · rw [ht, hu]
    simp

theorem keeps (h : AlikeBut hidden t u) : t.Keeps u :=
  ⟨h.here.symm, fun place => (h.directory_iff place).mp⟩

theorem isSome_get? (h : AlikeBut hidden t u) (place : Location) :
    (t.get? place).isSome = (u.get? place).isSome := by
  rcases h.places place with heq | ⟨-, ⟨_, _, ht⟩, _, _, hu⟩
  · rw [heq]
  · rw [ht, hu]
    rfl

/-! ## 2. Walks -/

theorem enter (h : AlikeBut hidden t u) (place : Location) : t.enter place = u.enter place := by
  rcases h.places place with heq | ⟨-, ⟨_, _, ht⟩, _, _, hu⟩
  · rw [FileTree.enter, FileTree.enter, heq]
  · rw [FileTree.enter, FileTree.enter, ht, hu]

theorem step (h : AlikeBut hidden t u) (place : Location) (name : FileName) :
    t.step place name = u.step place name := by
  rw [FileTree.step, FileTree.step, h.enter]

/-- **No walk tells alike trees apart.** -/
theorem walk (h : AlikeBut hidden t u) (place : Location) (names : List String) :
    t.walk place names = u.walk place names := by
  induction names generalizing place with
  | nil => rfl
  | cons name names ih =>
    rw [FileTree.walk, FileTree.walk, h.step]
    cases u.step place name with
    | error reason => rfl
    | ok next => exact ih next

theorem start (h : AlikeBut hidden t u) (path : String) : t.start path = u.start path := by
  rw [FileTree.start, FileTree.start, h.here]

theorem follow (h : AlikeBut hidden t u) (path : Path) : t.follow path = u.follow path := by
  cases path with
  | text path => rw [FileTree.follow, FileTree.follow, h.start, h.walk]
  | garbled dir name =>
    rw [FileTree.follow, FileTree.follow, h.start, h.walk]
    cases u.walk (u.start dir) (Path.parts dir) with
    | error reason => rfl
    | ok below => exact h.step below (.garble name)

theorem resolve (h : AlikeBut hidden t u) (path : Path) : t.resolve path = u.resolve path := by
  rw [FileTree.resolve, FileTree.resolve, h.follow]

/-- What is read is the same, except at a hidden place. -/
theorem read (h : AlikeBut hidden t u) {path : Path}
    (hpath : ∀ place, u.resolve path = .ok place → ¬ hidden place) : t.read path = u.read path :=
  read_congr (h.resolve path) fun place hplace => h.get?_eq (hpath place hplace)

/-! ## 3. Changes -/

/-- The same entry at the same place. -/
theorem set (h : AlikeBut hidden t u) (place : Location) (entry : Entry) :
    AlikeBut hidden (t.set place entry) (u.set place entry) := by
  refine ⟨h.here, fun other => ?_⟩
  by_cases hother : other = place
  · left
    subst hother
    simp [get?_set]
  · rw [HoldsFile, HoldsFile, get?_set_of_ne hother, get?_set_of_ne hother]
    exact h.places other

theorem makeDirectory (h : AlikeBut hidden t u) (place : Location) (names : List String) :
    AlikeResults hidden (t.makeDirectory place names) (u.makeDirectory place names) := by
  induction names generalizing place with
  | nil => exact .error _
  | cons name names ih =>
    cases names with
    | nil =>
      rw [FileTree.makeDirectory, FileTree.makeDirectory, h.step]
      cases u.step place name with
      | error reason => exact .error reason
      | ok next =>
        simp only [h.isSome_get? next]
        split
        · exact .error _
        · exact .ok (h.set next .directory)
    | cons name' names =>
      rw [FileTree.makeDirectory, FileTree.makeDirectory, h.step]
      · cases u.step place name with
        | error reason => exact .error reason
        | ok next => exact ih next
      · simp
      · simp

theorem leadsToDirectory (h : AlikeBut hidden t u) (place : Location) (names : List String) :
    t.leadsToDirectory place names = u.leadsToDirectory place names := by
  rw [FileTree.leadsToDirectory, FileTree.leadsToDirectory, h.walk]
  cases u.walk place names with
  | error reason => rfl
  | ok next =>
    show (t.get? next == some .directory) = (u.get? next == some .directory)
    rw [Bool.eq_iff_iff, beq_iff_eq, beq_iff_eq]
    exact h.directory_iff next

theorem ensureDirectory (h : AlikeBut hidden t u) (place : Location) (names : List String) :
    AlikeResults hidden (t.ensureDirectory place names) (u.ensureDirectory place names) := by
  have hmake := h.makeDirectory place names
  rw [FileTree.ensureDirectory, FileTree.ensureDirectory, h.leadsToDirectory]
  revert hmake
  generalize t.makeDirectory place names = made, u.makeDirectory place names = made'
  rintro (reason | hmade)
  · cases reason with
    | alreadyExists =>
      dsimp only
      split
      · exact .ok h
      · exact .error _
    | _ => exact .error _
  · exact .ok hmade

/-- Directories are made in both trees, or in neither; also what was made before a failure is the
same. -/
theorem ensureDirectories (h : AlikeBut hidden t u) (place : Location)
    (all : List (List String)) :
    (t.ensureDirectories place all).1 = (u.ensureDirectories place all).1 ∧
      AlikeBut hidden (t.ensureDirectories place all).2 (u.ensureDirectories place all).2 := by
  induction all with
  | nil => exact ⟨rfl, h⟩
  | cons names above ih =>
    have hensure := h.ensureDirectory place names
    rw [FileTree.ensureDirectories, FileTree.ensureDirectories]
    revert hensure
    generalize t.ensureDirectory place names = made, u.ensureDirectory place names = made'
    rintro (reason | hmade)
    · cases reason with
      | missing =>
        obtain ⟨hresult, hrest⟩ := ih
        dsimp only
        revert hresult hrest
        generalize t.ensureDirectories place above = rest, u.ensureDirectories place above = rest'
        obtain ⟨result, made⟩ := rest
        obtain ⟨result', made'⟩ := rest'
        rintro rfl hrest
        cases result with
        | error reason => exact ⟨rfl, hrest⟩
        | ok =>
          have hlast := AlikeBut.ensureDirectory hrest place names
          dsimp only at hlast ⊢
          revert hlast
          generalize made.ensureDirectory place names = last,
            made'.ensureDirectory place names = last'
          rintro (reason | hlast)
          · exact ⟨rfl, hrest⟩
          · exact ⟨rfl, hlast⟩
      | _ => exact ⟨rfl, h⟩
    · exact ⟨rfl, hmade⟩

theorem createDirectories (h : AlikeBut hidden t u) (path : String) :
    (t.createDirectories path).1 = (u.createDirectories path).1 ∧
      AlikeBut hidden (t.createDirectories path).2 (u.createDirectories path).2 := by
  rw [FileTree.createDirectories, FileTree.createDirectories, h.start]
  split
  · exact ⟨rfl, h⟩
  · split
    · exact ⟨rfl, h⟩
    · exact h.ensureDirectories _ _

/-- A text is written to both trees, or to neither.  At a hidden place the files may still differ
in whether they can be started. -/
theorem write (h : AlikeBut hidden t u) (path text : String) :
    AlikeResults hidden (t.write path text) (u.write path text) := by
  rw [FileTree.write, FileTree.write, h.resolve]
  cases u.resolve path with
  | error reason => exact .error reason
  | ok place =>
    dsimp only
    rcases h.places place with heq | ⟨hhidden, ⟨_, executable, ht⟩, _, executable', hu⟩
    · rw [heq]
      split
      · exact .error _
      · exact .ok (h.set place _)
      · exact .ok (h.set place _)
    · rw [ht, hu]
      refine .ok ⟨h.here, fun other => ?_⟩
      have hroot : place ≠ [] := ne_nil_of_get?_ne_directory (t := t) (by simp [ht])
      by_cases hother : other = place
      · subst hother
        exact Or.inr ⟨hhidden, ⟨.text text, executable, get?_set_self hroot t _⟩,
          .text text, executable', get?_set_self hroot u _⟩
      · rw [HoldsFile, HoldsFile, get?_set_of_ne hother, get?_set_of_ne hother]
        exact h.places other

end AlikeBut

end SeriesSchema.FileTree
