import SeriesSchema.Proofs.Walks

/-!
# Changes of trees

The two ways in which trees are changed, each as a relation between the tree before and the tree
after.

* A text is *written* at a place: the place holds the text, and nothing else has changed.
* Directories are *added*: each place shows what it showed, or showed nothing and is now a
  directory.  Those that `createDirectories` adds are all on the way of the path, also when it
  fails midway.

Both keep the directories that there were, and so all walks (`Keeps.walk`).
-/

namespace SeriesSchema.FileTree

variable {t u v : FileTree}

/-! ## 1. Writing a text -/

/-- The later tree is the earlier one with a text written at a place. -/
structure WritesAt (before after : FileTree) (place : Location) (text : String) : Prop where
  here : after.here = before.here
  notDirectory : before.get? place ≠ some .directory
  text : ∃ executable, after.get? place = some (.file (.text text) executable)
  elsewhere : ∀ other, other ≠ place → after.get? other = before.get? other

namespace WritesAt

variable {place : Location} {text : String}

/-- No text is written over a directory. -/
theorem keeps (h : t.WritesAt u place text) : t.Keeps u := by
  refine ⟨h.here, fun other hdir => ?_⟩
  have hne : other ≠ place := by
    rintro rfl
    exact h.notDirectory hdir
  rw [h.elsewhere other hne]
  exact hdir

/-- What was written can be read. -/
theorem read (h : t.WritesAt u place text) {path : String} (hpath : u.resolve path = .ok place) :
    u.read path = .ok text := by
  obtain ⟨executable, hget⟩ := h.text
  rw [FileTree.read, lookup, hpath]
  simp only [hget]

end WritesAt

/-- **A write that succeeds** writes its text at the place to which the path leads. -/
theorem writesAt_of_write {path text : String} (h : t.write path text = .ok u) :
    ∃ place, t.resolve path = .ok place ∧ t.WritesAt u place text := by
  rw [write] at h
  split at h
  · cases h
  · rename_i place hresolve
    refine ⟨place, hresolve, ?_⟩
    have hwrites : ∀ executable, t.get? place ≠ some .directory →
        t.WritesAt (t.set place (.file (.text text) executable)) place text := by
      intro executable hnot
      have hroot := ne_nil_of_get?_ne_directory hnot
      exact ⟨rfl, hnot, ⟨executable, get?_set_self hroot t _⟩,
        fun other hne => get?_set_of_ne hne t _⟩
    split at h
    · cases h
    · rename_i content executable hget
      obtain rfl := Except.ok.inj h
      exact hwrites executable (by simp [hget])
    · rename_i hget
      obtain rfl := Except.ok.inj h
      exact hwrites false (by simp [hget])

/-! ## 2. Adding directories -/

/-- The later tree is the earlier one with directories added, all at places of a kind. -/
structure AddsDirectories (before after : FileTree) (new : Location → Prop) : Prop where
  here : after.here = before.here
  places : ∀ place, after.get? place = before.get? place ∨
    before.get? place = none ∧ after.get? place = some .directory ∧ new place

namespace AddsDirectories

variable {new more : Location → Prop}

protected theorem refl (t : FileTree) (new : Location → Prop) : t.AddsDirectories t new :=
  ⟨rfl, fun _ => Or.inl rfl⟩

protected theorem trans (h : t.AddsDirectories u new) (h' : u.AddsDirectories v more)
    (hnew : ∀ place, new place → more place) : t.AddsDirectories v more := by
  refine ⟨h'.here.trans h.here, fun place => ?_⟩
  rcases h.places place with heq | ⟨hnone, hdir, hplace⟩
  · rcases h'.places place with heq' | ⟨hnone', hdir', hplace'⟩
    · exact Or.inl (heq'.trans heq)
    · exact Or.inr ⟨heq ▸ hnone', hdir', hplace'⟩
  · rcases h'.places place with heq' | ⟨hnone', -, -⟩
    · exact Or.inr ⟨hnone, heq'.trans hdir, hnew place hplace⟩
    · rw [hdir] at hnone'
      cases hnone'

theorem mono (h : t.AddsDirectories u new) (hnew : ∀ place, new place → more place) :
    t.AddsDirectories u more :=
  h.trans (.refl u more) hnew

/-- What stood somewhere stands there still. -/
theorem get?_eq (h : t.AddsDirectories u new) {place : Location} {entry : Entry}
    (hget : t.get? place = some entry) : u.get? place = some entry := by
  rcases h.places place with heq | ⟨hnone, -, -⟩
  · exact heq.trans hget
  · rw [hnone] at hget
    cases hget

theorem keeps (h : t.AddsDirectories u new) : t.Keeps u :=
  ⟨h.here, fun _ hdir => h.get?_eq hdir⟩

/-- One directory where there was nothing. -/
theorem set {place : Location} (hnone : t.get? place = none) (hplace : new place) :
    t.AddsDirectories (t.set place .directory) new := by
  refine ⟨rfl, fun other => ?_⟩
  have hroot : place ≠ [] := ne_nil_of_get?_ne_directory (t := t) (by simp [hnone])
  by_cases hother : other = place
  · subst hother
    exact Or.inr ⟨hnone, get?_set_self hroot t _, hplace⟩
  · exact Or.inl (get?_set_of_ne hother t _)

end AddsDirectories

/-! ## 3. The directories on the way of a path -/

/-- Whether a place is on the way of a path: some first part of its steps leads there. -/
def Passes (t : FileTree) (path : String) (place : Location) : Prop :=
  ∃ names, names <+: Path.parts path ∧ t.walk (t.start path) names = .ok place

theorem Keeps.passes (h : t.Keeps u) {path : String} {place : Location}
    (hp : t.Passes path place) : u.Passes path place := by
  obtain ⟨names, hpre, hwalk⟩ := hp
  exact ⟨names, hpre, h.walk_start hwalk⟩

/-- Steps that make up the first of the essential parts of a path lead to a place on its way. -/
theorem passes_of_essentialParts {path : String} {names : List String} {place : Location}
    (hpre : names <+: Path.essentialParts path) (h : t.walk (t.start path) names = .ok place) :
    t.Passes path place := by
  rw [Path.essentialParts] at hpre
  split at hpre
  · rename_i more hparts
    by_cases habs : Path.isAbsolute path = true
    · rw [if_pos habs, List.nil_append] at hpre
      have hall : names <+: ("." :: more).filter (· ≠ ".") := by simpa using hpre
      obtain ⟨first, hfirst, hwalk⟩ := walk_of_prefix_filter hall h
      exact ⟨first, hparts ▸ hfirst, hwalk⟩
    · rw [if_neg habs, List.singleton_append] at hpre
      cases names with
      | nil => exact ⟨[], List.nil_prefix, h⟩
      | cons name names =>
        obtain ⟨rfl, hmore⟩ := List.cons_prefix_cons.mp hpre
        obtain ⟨next, hstep, hwalk⟩ := walk_cons_eq_ok.mp h
        obtain ⟨first, hfirst, hlast⟩ := walk_of_prefix_filter hmore hwalk
        exact ⟨"." :: first, hparts ▸ List.cons_prefix_cons.mpr ⟨rfl, hfirst⟩,
          walk_cons_eq_ok.mpr ⟨next, hstep, hlast⟩⟩
  · obtain ⟨first, hfirst, hwalk⟩ := walk_of_prefix_filter hpre h
    exact ⟨first, hfirst, hwalk⟩

/-- Every directory that is asked for on behalf of a path is on its way. -/
theorem passes_of_mem_directoriesUpwards {path : String} {names : List String} {place : Location}
    (hmem : names ∈ directoriesUpwards path) (h : t.walk (t.start path) names = .ok place) :
    t.Passes path place := by
  rw [directoriesUpwards] at hmem
  rcases List.mem_cons.mp hmem with rfl | hmem
  · exact ⟨Path.parts path, List.prefix_rfl, h⟩
  · obtain ⟨n, -, rfl⟩ := List.mem_map.mp hmem
    exact passes_of_essentialParts (List.take_prefix n _) h

/-! ## 4. Making directories -/

/-- A directory is made where the steps lead, and where nothing stood. -/
theorem makeDirectory_eq_ok {place : Location} {names : List String}
    (h : t.makeDirectory place names = .ok u) :
    ∃ next, t.walk place names = .ok next ∧ t.get? next = none ∧ u = t.set next .directory := by
  induction names generalizing place with
  | nil => cases h
  | cons name names ih =>
    cases names with
    | nil =>
      rw [makeDirectory] at h
      split at h
      · cases h
      · rename_i next hstep
        split at h
        · cases h
        · rename_i hfree
          have hnone : t.get? next = none := by
            rw [Option.eq_none_iff_forall_ne_some]
            intro entry hget
            exact hfree (Or.inr (Or.inr (by simp [hget])))
          exact ⟨next, walk_cons_eq_ok.mpr ⟨next, hstep, rfl⟩, hnone, (Except.ok.inj h).symm⟩
    | cons name' names =>
      rw [makeDirectory] at h
      · split at h
        · cases h
        · rename_i next hstep
          obtain ⟨last, hwalk, hnone, hset⟩ := ih h
          exact ⟨last, walk_cons_eq_ok.mpr ⟨next, hstep, hwalk⟩, hnone, hset⟩
      · simp

/-- A directory that is ensured is the only one added. -/
theorem addsDirectories_of_ensureDirectory {place : Location} {names : List String}
    (h : t.ensureDirectory place names = .ok u) :
    t.AddsDirectories u fun next => u.walk place names = .ok next := by
  rw [ensureDirectory] at h
  split at h
  · split at h
    · obtain rfl := Except.ok.inj h
      exact .refl t _
    · cases h
  · obtain ⟨next, hwalk, hnone, rfl⟩ := makeDirectory_eq_ok h
    have hadds : t.AddsDirectories (t.set next .directory) fun _ => True := .set hnone trivial
    exact .set hnone (hadds.keeps.walk hwalk)

/-- **Ensuring directories adds directories and nothing else**, each at the end of one of the lists
of steps, whether or not all goes well.  The induction is on these lists: what is added for the
later ones is there when the first is made, and is not lost by it. -/
theorem ensureDirectories_adds {place : Location} {all : List (List String)}
    {result : Except Reason Unit} (h : t.ensureDirectories place all = (result, u)) :
    t.AddsDirectories u fun next => ∃ names ∈ all, u.walk place names = .ok next := by
  induction all generalizing u result with
  | nil =>
    obtain ⟨-, rfl⟩ := Prod.mk.inj h
    exact .refl t _
  | cons names above ih =>
    have hhead : ∀ {v w : FileTree}, v.ensureDirectory place names = .ok w →
        v.AddsDirectories w fun next => ∃ steps ∈ names :: above, w.walk place steps = .ok next :=
      fun h => (addsDirectories_of_ensureDirectory h).mono fun next hwalk =>
        ⟨names, List.mem_cons_self, hwalk⟩
    have hmore : ∀ {v w : FileTree}, v.Keeps w → ∀ next,
        (∃ steps ∈ above, v.walk place steps = .ok next) →
          ∃ steps ∈ names :: above, w.walk place steps = .ok next := by
      rintro v w hkeeps next ⟨steps, hmem, hwalk⟩
      exact ⟨steps, List.mem_cons_of_mem _ hmem, hkeeps.walk hwalk⟩
    rw [ensureDirectories] at h
    split at h
    · rename_i made hmade
      obtain ⟨-, rfl⟩ := Prod.mk.inj h
      exact hhead hmade
    · split at h
      · rename_i reason made habove
        obtain ⟨-, rfl⟩ := Prod.mk.inj h
        exact (ih habove).mono (hmore (.refl made))
      · rename_i made habove
        split at h
        · rename_i all hmade
          obtain ⟨-, rfl⟩ := Prod.mk.inj h
          have hlast := hhead hmade
          exact (ih habove).trans hlast (hmore hlast.keeps)
        · obtain ⟨-, rfl⟩ := Prod.mk.inj h
          exact (ih habove).mono (hmore (.refl made))
    · obtain ⟨-, rfl⟩ := Prod.mk.inj h
      exact .refl t _

/-- **Making the directories of a path adds directories on its way and nothing else**, whether or
not all goes well. -/
theorem createDirectories_adds {path : String} {result : Except Reason Unit}
    (h : t.createDirectories path = (result, u)) : t.AddsDirectories u (u.Passes path) := by
  rw [createDirectories] at h
  split at h
  · obtain ⟨-, rfl⟩ := Prod.mk.inj h
    exact .refl t _
  · split at h
    · obtain ⟨-, rfl⟩ := Prod.mk.inj h
      exact .refl t _
    · have hadds := ensureDirectories_adds h
      refine hadds.mono fun place hplace => ?_
      obtain ⟨names, hmem, hwalk⟩ := hplace
      rw [← hadds.keeps.start path] at hwalk
      exact passes_of_mem_directoriesUpwards hmem hwalk

end SeriesSchema.FileTree
