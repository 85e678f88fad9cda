import SeriesSchema.Proofs.TreeChanges

/-!
# Making directories again

What `createDirectories` does on a tree that it has left itself.

* If it went well, the directory is there, and on every tree that keeps it nothing is to be done
  (`createDirectories_of_keeps`).
* If it failed, it fails again and changes nothing (`createDirectories_again`).  It asks for one
  directory after the other, from the last of the path upwards, and then comes down again.  It got
  *stuck* on one of them (`stuck_of_ensureDirectories`): those above it are made by now, and those
  below it cannot be, since their paths lead over the place where it got stuck.

It need not fail for the same reason, though.  If a file stands where it got stuck, this is told
only when that directory is asked for.  The next time one below it is asked for first, and that the
file is no directory is told instead.  For this to happen the file must have come into sight when a
directory above it was made, which takes a step up in the path (`Grounded`).

1. one directory;
2. directories that are there;
3. the directory where it gets stuck;
4. the directories of a path;
5. trees without gaps;
6. the second time.
-/

namespace SeriesSchema.FileTree

variable {t u v : FileTree}

/-! ## 1. One directory -/

/-- A walk says that something is missing, no directory, or too long. -/
theorem ne_alreadyExists_of_walk {place : Location} {names : List String} {reason : Reason}
    (h : t.walk place names = .error reason) : reason ≠ .alreadyExists := by
  induction names generalizing place with
  | nil => cases h
  | cons name names ih =>
    rw [walk] at h
    split at h
    · rename_i reason' hstep
      obtain rfl := Except.error.inj h
      rintro rfl
      unfold step enter at hstep
      grind
    · exact ih h

/-- A directory is made where the steps lead, unless something is there or the last step is none to
a name. -/
theorem makeDirectory_eq (t : FileTree) (place : Location) (names : List String) :
    t.makeDirectory place names =
      match t.walk place names with
      | .error reason => .error reason
      | .ok next =>
        if names.getLast?.getD "." ∈ [".", ".."] ∨ (t.get? next).isSome then .error .alreadyExists
        else .ok (t.set next .directory) := by
  induction names generalizing place with
  | nil => rfl
  | cons name names ih =>
    cases names with
    | nil =>
      rw [makeDirectory, walk]
      cases t.step place name with
      | error reason => rfl
      | ok next => simp [walk, or_assoc]
    | cons name' names =>
      rw [makeDirectory, walk]
      · cases t.step place name with
        | error reason => rfl
        | ok next =>
          have hlast : (name :: name' :: names).getLast? = (name' :: names).getLast? := by simp
          rw [hlast]
          exact ih next
      · simp

theorem ensureDirectory_of_walk_error {place : Location} {names : List String} {reason : Reason}
    (h : t.walk place names = .error reason) : t.ensureDirectory place names = .error reason := by
  have hne := ne_alreadyExists_of_walk h
  rw [ensureDirectory, makeDirectory_eq, h]
  cases reason <;> first | rfl | exact absurd rfl hne

/-- **What comes of a directory** to which the steps lead: it is there, or it is made, or something
else is in its way. -/
theorem ensureDirectory_of_walk {place next : Location} {names : List String}
    (h : t.walk place names = .ok next) :
    t.ensureDirectory place names =
      if t.get? next = some .directory then .ok t
      else if names.getLast?.getD "." ∈ [".", ".."] ∨ (t.get? next).isSome then
        .error .alreadyExists
      else .ok (t.set next .directory) := by
  have hleads : t.leadsToDirectory place names = true ↔ t.get? next = some .directory := by
    rw [leadsToDirectory, h, beq_iff_eq]
  rw [ensureDirectory, makeDirectory_eq, h]
  by_cases hdir : t.get? next = some .directory
  · simp [hdir, hleads]
  · rw [if_neg hdir]
    rw [← hleads] at hdir
    by_cases htaken : names.getLast?.getD "." ∈ [".", ".."] ∨ (t.get? next).isSome
    · simp only [if_pos htaken, if_neg hdir]
    · simp only [if_neg htaken]

/-! ## 2. Directories that are there -/

/-- Steps lead to a directory. -/
def Reaches (t : FileTree) (place : Location) (names : List String) : Prop :=
  ∃ next, t.walk place names = .ok next ∧ t.get? next = some .directory

theorem Reaches.ensureDirectory {place : Location} {names : List String}
    (h : t.Reaches place names) : t.ensureDirectory place names = .ok t := by
  obtain ⟨next, hwalk, hdir⟩ := h
  rw [ensureDirectory_of_walk hwalk, if_pos hdir]

theorem Keeps.reaches (h : t.Keeps u) {place : Location} {names : List String}
    (hnames : t.Reaches place names) : u.Reaches place names := by
  obtain ⟨next, hwalk, hdir⟩ := hnames
  exact ⟨next, h.walk hwalk, h.directory next hdir⟩

/-- A directory that is ensured is there. -/
theorem reaches_of_ensureDirectory {place : Location} {names : List String}
    (h : t.ensureDirectory place names = .ok u) : u.Reaches place names := by
  cases hwalk : t.walk place names with
  | error reason =>
    rw [ensureDirectory_of_walk_error hwalk] at h
    cases h
  | ok next =>
    refine ⟨next, (addsDirectories_of_ensureDirectory h).keeps.walk hwalk, ?_⟩
    rw [ensureDirectory_of_walk hwalk] at h
    split at h
    · rename_i hdir
      obtain rfl := Except.ok.inj h
      exact hdir
    · split at h
      · cases h
      · rename_i hnot hfree
        obtain rfl := Except.ok.inj h
        exact get?_set_self (ne_nil_of_get?_ne_directory hnot) t _

/-- If all goes well, the first of the directories is there. -/
theorem reaches_of_ensureDirectories {place : Location} {names : List String}
    {above : List (List String)} (h : t.ensureDirectories place (names :: above) = (.ok (), u)) :
    u.Reaches place names := by
  rw [ensureDirectories] at h
  split at h
  · rename_i made hmade
    obtain ⟨-, rfl⟩ := Prod.mk.inj h
    exact reaches_of_ensureDirectory hmade
  · split at h
    · cases (Prod.mk.inj h).1
    · split at h
      · rename_i made hmade
        obtain ⟨-, rfl⟩ := Prod.mk.inj h
        exact reaches_of_ensureDirectory hmade
      · cases (Prod.mk.inj h).1
  · cases (Prod.mk.inj h).1

/-- Then nothing is to be done on any tree that keeps it. -/
theorem ensureDirectories_of_keeps {place : Location} {all : List (List String)}
    (h : t.ensureDirectories place all = (.ok (), u)) (hkeeps : u.Keeps v) :
    v.ensureDirectories place all = (.ok (), v) := by
  cases all with
  | nil => rfl
  | cons names above =>
    have hthere := hkeeps.reaches (reaches_of_ensureDirectories h)
    rw [ensureDirectories, hthere.ensureDirectory]

/-! ## 3. The directory where it gets stuck -/

/-- Where a list of directories is cut by the one that cannot be ensured: it fails on the tree that
was left, and if it is missing there then the ones above it are not. -/
structure Stuck (t u : FileTree) (place : Location) (reason : Reason) (names : List String)
    (above : List (List String)) : Prop where
  fails : u.ensureDirectory place names = .error reason
  settled : reason = .missing → u.ensureDirectories place above = (.ok (), u)
  /-- if anything was made, then because this directory was missing -/
  missed : u = t ∨ t.ensureDirectory place names = .error .missing

/-- **Ensuring directories fails by getting stuck on one of them.** -/
theorem stuck_of_ensureDirectories {place : Location} {all : List (List String)} {reason : Reason}
    (h : t.ensureDirectories place all = (.error reason, u)) :
    ∃ below names above, all = below ++ names :: above ∧ t.Stuck u place reason names above := by
  induction all with
  | nil => cases (Prod.mk.inj h).1
  | cons names above ih =>
    rw [ensureDirectories] at h
    split at h
    · cases (Prod.mk.inj h).1
    · rename_i hmissing
      split at h
      · -- stuck further up
        rename_i reason' made habove
        obtain ⟨hreason, rfl⟩ := Prod.mk.inj h
        obtain rfl := Except.error.inj hreason
        obtain ⟨below, stuck, rest, rfl, hstuck⟩ := ih habove
        exact ⟨names :: below, stuck, rest, rfl, hstuck⟩
      · rename_i made habove
        split at h
        · cases (Prod.mk.inj h).1
        · -- stuck here, on the way down
          rename_i reason' hfails
          obtain ⟨hreason, rfl⟩ := Prod.mk.inj h
          obtain rfl := Except.error.inj hreason
          exact ⟨[], names, above, rfl, hfails,
            fun _ => ensureDirectories_of_keeps habove (.refl made), Or.inr hmissing⟩
    · -- stuck here, on the way up
      rename_i reason' hnot hfails
      obtain ⟨hreason, rfl⟩ := Prod.mk.inj h
      obtain rfl := Except.error.inj hreason
      exact ⟨[], names, above, rfl, hfails, fun hmissing => absurd hmissing hnot, Or.inl rfl⟩

/-- The reasons for which a directory can fail the next time: the same one, or what is told of a
file on the way. -/
def Recurs (reason again : Reason) : Prop :=
  again = reason ∨ reason = .alreadyExists ∧ again = .notDirectory

/-- What is stuck stays stuck, if those below it are missing or fail for a reason that recurs. -/
theorem Stuck.ensureDirectories {place : Location} {reason : Reason} {names : List String}
    {above : List (List String)} (h : t.Stuck u place reason names above)
    {below : List (List String)} (hbelow : ∀ steps ∈ below, ∃ again,
      u.ensureDirectory place steps = .error again ∧ (again = .missing ∨ Recurs reason again)) :
    ∃ again, u.ensureDirectories place (below ++ names :: above) = (.error again, u) ∧
      Recurs reason again := by
  induction below with
  | nil =>
    refine ⟨reason, ?_, Or.inl rfl⟩
    rw [List.nil_append, FileTree.ensureDirectories, h.fails]
    by_cases hmissing : reason = .missing
    · subst hmissing
      simp only [h.settled rfl, h.fails]
    · cases reason <;> first | rfl | exact absurd rfl hmissing
  | cons steps below ih =>
    obtain ⟨last, hlast, hrecurs⟩ := ih fun other hmem => hbelow other (List.mem_cons_of_mem _ hmem)
    obtain ⟨again, hsteps, hagain⟩ := hbelow steps List.mem_cons_self
    rw [List.cons_append, FileTree.ensureDirectories, hsteps]
    by_cases hmissing : again = .missing
    · subst hmissing
      simp only [hlast]
      exact ⟨last, rfl, hrecurs⟩
    · refine ⟨again, ?_, hagain.resolve_left hmissing⟩
      cases again <;> first | rfl | exact absurd rfl hmissing

/-! ## 4. The directories of a path -/

/-- Some steps are others without some of those that stay. -/
inductive Thins : List String → List String → Prop
  | nil : Thins [] []
  | keep (name : String) {all kept : List String} (h : Thins all kept) :
    Thins (name :: all) (name :: kept)
  | stay {all kept : List String} (h : Thins all kept) : Thins ("." :: all) kept

namespace Thins

protected theorem refl (names : List String) : Thins names names := by
  induction names with
  | nil => exact .nil
  | cons name names ih => exact .keep name ih

theorem filter (names : List String) : Thins names (names.filter (· ≠ ".")) := by
  induction names with
  | nil => exact .nil
  | cons name names ih =>
    by_cases hdot : name = "."
    · subst hdot
      exact .stay ih
    · rw [List.filter_cons_of_pos (by simpa using hdot)]
      exact .keep name ih

theorem essentialParts (path : String) : Thins (Path.parts path) (Path.essentialParts path) := by
  rw [Path.essentialParts]
  split
  · rename_i more hparts
    rw [hparts]
    split
    · exact .stay (filter more)
    · exact .keep "." (filter more)
  · exact filter _

end Thins

/-- Where no directory stands, no steps can be taken. -/
theorem walk_of_enter_error {place : Location} {names : List String} {reason : Reason}
    (hne : names ≠ []) (h : t.enter place = .error reason) :
    t.walk place names = .error reason := by
  cases names with
  | nil => exact absurd rfl hne
  | cons name names => rw [walk, step, h]

/-- **Where a walk cannot be taken further, no walk over that place arrives**, and it fails in the
same way.  The induction is on how the longer steps thin out, for every place to walk from. -/
theorem Thins.walk {all names more : List String} (h : Thins all (names ++ more))
    (hmore : more ≠ []) {place : Location} {reason : Reason}
    (hwalk : t.walk place (names ++ ["."]) = .error reason) : t.walk place all = .error reason := by
  generalize hkept : names ++ more = kept at h
  induction h generalizing names place with
  | nil => exact absurd (List.append_eq_nil_iff.mp hkept).2 hmore
  | @stay all kept h ih =>
    cases henter : t.enter place with
    | error reason' =>
      rw [walk_of_enter_error (by simp) henter] at hwalk ⊢
      exact hwalk
    | ok =>
      rw [FileTree.walk, step, henter]
      exact ih hwalk hkept
  | @keep name all kept h ih =>
    cases names with
    | nil =>
      cases henter : t.enter place with
      | error reason' =>
        rw [walk_of_enter_error (by simp) henter] at hwalk ⊢
        exact hwalk
      | ok =>
        rw [List.nil_append, FileTree.walk, step, henter] at hwalk
        cases hwalk
    | cons first names =>
      obtain ⟨rfl, hmore⟩ := List.cons.inj hkept
      rw [List.cons_append, FileTree.walk] at hwalk
      rw [FileTree.walk]
      cases hstep : t.step place first with
      | error reason' =>
        rw [hstep] at hwalk
        exact hwalk
      | ok next =>
        rw [hstep] at hwalk
        exact ih hwalk hmore

/-- A directory that cannot be ensured cannot be walked over, for a reason that fits. -/
theorem walk_of_ensureDirectory_error {place : Location} {names : List String} {reason : Reason}
    (h : t.ensureDirectory place names = .error reason) :
    ∃ again, t.walk place (names ++ ["."]) = .error again ∧
      (again = .missing ∨ Recurs reason again) := by
  cases hwalk : t.walk place names with
  | error reason' =>
    rw [ensureDirectory_of_walk_error hwalk] at h
    obtain rfl := Except.error.inj h
    exact ⟨reason', walk_append_of_error hwalk ["."], Or.inr (Or.inl rfl)⟩
  | ok next =>
    rw [ensureDirectory_of_walk hwalk] at h
    split at h
    · cases h
    · rename_i hnot
      split at h
      · obtain rfl := Except.error.inj h
        rw [walk_append hwalk]
        cases hget : t.get? next with
        | none =>
          have henter : t.enter next = .error .missing := by rw [enter, hget]
          exact ⟨_, walk_of_enter_error (by simp) henter, Or.inl rfl⟩
        | some entry =>
          cases entry with
          | directory => exact absurd hget hnot
          | file content executable =>
            have henter : t.enter next = .error .notDirectory := by rw [enter, hget]
            exact ⟨_, walk_of_enter_error (by simp) henter, Or.inr (Or.inr ⟨rfl, rfl⟩)⟩
      · cases h

/-- The steps of a directory of a path are the first of those of the directories below it. -/
theorem pairwise_directoriesUpwards (path : String) :
    (directoriesUpwards path).Pairwise fun below names =>
      ∃ more, more ≠ [] ∧ Thins below (names ++ more) := by
  have htake : ∀ {m n : Nat}, m < n → n ≤ (Path.essentialParts path).length →
      ∃ more, more ≠ [] ∧ (Path.essentialParts path).take n =
        (Path.essentialParts path).take m ++ more := by
    intro m n hmn hn
    refine ⟨((Path.essentialParts path).take n).drop m, ?_, ?_⟩
    · rw [Ne, List.drop_eq_nil_iff, List.length_take]
      omega
    · have hsplit := List.take_append_drop m ((Path.essentialParts path).take n)
      rw [List.take_take, Nat.min_eq_left (by omega)] at hsplit
      exact hsplit.symm
  rw [directoriesUpwards, List.pairwise_cons]
  refine ⟨fun names hmem => ?_, ?_⟩
  · obtain ⟨n, hn, rfl⟩ := List.mem_map.mp hmem
    rw [List.mem_reverse, List.mem_range'_1] at hn
    obtain ⟨more, hmore, hall⟩ := htake (m := n) (n := (Path.essentialParts path).length)
      (by omega) (by omega)
    rw [List.take_length] at hall
    exact ⟨more, hmore, hall ▸ Thins.essentialParts path⟩
  · rw [List.pairwise_map, List.pairwise_reverse]
    have hascends : (List.range' 1 ((Path.essentialParts path).length - 1)).Pairwise (· < ·) :=
      List.pairwise_lt_range'
    refine hascends.imp_of_mem fun {m n} hm hn hmn => ?_
    rw [List.mem_range'_1] at hn
    obtain ⟨more, hmore, hall⟩ := htake hmn (by omega)
    exact ⟨more, hmore, hall ▸ Thins.refl _⟩

/-! ## 5. Trees without gaps -/

/-- Whether all that a tree holds lies in directories of the tree. -/
def Grounded (t : FileTree) : Prop :=
  ∀ name place, t.get? (name :: place) ≠ none → t.get? place = some .directory

/-- Below a place where nothing stands there is nothing. -/
theorem Grounded.get?_append (h : t.Grounded) {place : Location} (hnone : t.get? place = none)
    (below : Location) : t.get? (below ++ place) = none := by
  induction below with
  | nil => exact hnone
  | cons name below ih =>
    by_contra hsome
    have hdir := h name (below ++ place) hsome
    rw [ih] at hdir
    cases hdir

/-- A walk without steps up stays below the place where it begins. -/
theorem walk_below {place last : Location} {names : List String} (hup : ".." ∉ names)
    (h : t.walk place names = .ok last) : ∃ below, last = below ++ place := by
  induction names generalizing place with
  | nil => exact ⟨[], (Except.ok.inj h).symm⟩
  | cons name names ih =>
    obtain ⟨next, hstep, hwalk⟩ := walk_cons_eq_ok.mp h
    obtain ⟨below, rfl⟩ := ih (fun hmem => hup (List.mem_cons_of_mem _ hmem)) hwalk
    rcases (step_text_eq_ok.mp hstep).2 with ⟨-, rfl⟩ | ⟨-, rfl, -⟩ | ⟨-, -, -, rfl⟩
    · exact ⟨below, rfl⟩
    · exact absurd List.mem_cons_self hup
    · exact ⟨below ++ [FileName.text name], by simp⟩

/-- If steps that do not go up miss a directory, then nothing stands where they lead once it is
made. -/
theorem Grounded.get?_of_walk (h : t.Grounded) {place last : Location} {names : List String}
    (hup : ".." ∉ names) (hmissing : t.walk place names = .error .missing) (hkeeps : t.Keeps u)
    (hwalk : u.walk place names = .ok last) : t.get? last = none := by
  induction names generalizing place with
  | nil => cases hmissing
  | cons name names ih =>
    cases hget : t.get? place with
    | none =>
      obtain ⟨below, rfl⟩ := walk_below hup hwalk
      exact h.get?_append hget below
    | some entry =>
      obtain ⟨next, hstep, hrest⟩ := walk_cons_eq_ok.mp hwalk
      cases entry with
      | file content executable =>
        have henter : t.enter place = .error .notDirectory := by rw [enter, hget]
        rw [walk_of_enter_error (by simp) henter] at hmissing
        cases hmissing
      | directory =>
        rw [step_congr name (hkeeps.directory place hget) hget] at hstep
        rw [walk, hstep] at hmissing
        exact ih (fun hmem => hup (List.mem_cons_of_mem _ hmem)) hmissing hrest

/-- **No file comes into sight without a step up**: a directory that was missing, on a tree without
gaps, is not in the place of something else once other directories were made. -/
theorem Grounded.ensureDirectory_ne (h : t.Grounded) {new : Location → Prop}
    (hadds : t.AddsDirectories u new) {place : Location} {names : List String}
    (hup : ".." ∉ names) (hmissing : t.ensureDirectory place names = .error .missing) :
    u.ensureDirectory place names ≠ .error .alreadyExists := by
  intro htaken
  have hmissing' : t.walk place names = .error .missing := by
    cases hwalk : t.walk place names with
    | error reason =>
      rw [ensureDirectory_of_walk_error hwalk] at hmissing
      rw [Except.error.inj hmissing]
    | ok next =>
      rw [ensureDirectory_of_walk hwalk] at hmissing
      split at hmissing
      · cases hmissing
      · split at hmissing
        · cases hmissing
        · cases hmissing
  cases hwalk : u.walk place names with
  | error reason =>
    rw [ensureDirectory_of_walk_error hwalk] at htaken
    exact ne_alreadyExists_of_walk hwalk (Except.error.inj htaken)
  | ok last =>
    have hnone := h.get?_of_walk hup hmissing' hadds.keeps hwalk
    rw [ensureDirectory_of_walk hwalk] at htaken
    split at htaken
    · cases htaken
    · rename_i hnot
      rcases hadds.places last with heq | ⟨-, hdir, -⟩
      · rcases List.eq_nil_or_concat names with rfl | ⟨init, name, rfl⟩
        · cases hmissing'
        · -- the last step is to a name: a step that stays would have led to a directory
          rw [List.concat_eq_append] at hup hwalk htaken
          obtain ⟨mid, -, hlast⟩ := walk_append_eq_ok hwalk
          obtain ⟨next, hstep, hnext⟩ := walk_cons_eq_ok.mp hlast
          obtain rfl : next = last := Except.ok.inj hnext
          have hname : name ∉ [".", ".."] := by
            intro hmem
            rcases List.mem_pair.mp hmem with rfl | rfl
            · rcases (step_text_eq_ok.mp hstep).2 with ⟨-, rfl⟩ | ⟨hne, -⟩ | ⟨hne, -⟩
              · exact hnot (isDirectory_of_step hstep)
              · exact hne rfl
              · exact hne rfl
            · exact hup (by simp)
          rw [List.getLast?_concat, Option.getD_some, heq, hnone, if_neg (by simpa using hname)]
            at htaken
          cases htaken
      · exact hnot hdir

/-! ## 6. The second time -/

/-- A directory that could be made is there; the one at the empty path is not asked for. -/
theorem reaches_of_createDirectories {path : String} (hne : path ≠ "")
    (h : t.createDirectories path = (.ok (), u)) : u.Reaches (u.start path) (Path.parts path) := by
  rw [createDirectories, if_neg (by simpa using hne)] at h
  split at h
  · cases (Prod.mk.inj h).1
  · rw [(ensureDirectories_adds h).keeps.start path]
    exact reaches_of_ensureDirectories h

/-- Once a directory could be made, nothing is to be done on any tree that keeps it. -/
theorem createDirectories_of_keeps {path : String} (h : t.createDirectories path = (.ok (), u))
    (hkeeps : u.Keeps v) : v.createDirectories path = (.ok (), v) := by
  rw [createDirectories] at h ⊢
  split at h
  · rename_i hempty
    rw [if_pos hempty]
  · rename_i hempty
    rw [if_neg hempty]
    split at h
    · cases (Prod.mk.inj h).1
    · have hstart : v.start path = t.start path :=
        (hkeeps.start path).trans ((ensureDirectories_adds h).keeps.start path)
      rw [hstart]
      exact ensureDirectories_of_keeps h hkeeps

theorem mem_parts_of_mem_essentialParts {path name : String}
    (h : name ∈ Path.essentialParts path) : name ∈ Path.parts path := by
  rw [Path.essentialParts] at h
  split at h
  · rename_i more hparts
    rw [hparts]
    rcases List.mem_append.mp h with h | h
    · split at h
      · cases h
      · rw [List.mem_singleton.mp h]
        exact List.mem_cons_self
    · exact List.mem_cons_of_mem _ (List.mem_of_mem_filter h)
  · exact List.mem_of_mem_filter h

theorem mem_parts_of_mem_directoriesUpwards {path name : String} {names : List String}
    (hmem : names ∈ directoriesUpwards path) (h : name ∈ names) : name ∈ Path.parts path := by
  rcases List.mem_cons.mp hmem with rfl | hmem
  · exact h
  · obtain ⟨n, -, rfl⟩ := List.mem_map.mp hmem
    exact mem_parts_of_mem_essentialParts (List.mem_of_mem_take h)

/-- **Directories that could not be made cannot be made the second time**, and nothing changes.  The
reason is the same, but for the file that came into sight. -/
theorem createDirectories_again {path : String} {reason : Reason}
    (h : t.createDirectories path = (.error reason, u)) :
    ∃ again, u.createDirectories path = (.error again, u) ∧
      (again = reason ∨ reason = .alreadyExists ∧ again = .notDirectory ∧ u ≠ t ∧
        (t.Grounded → ".." ∈ Path.parts path)) := by
  by_cases hchanged : u = t
  · subst hchanged
    exact ⟨reason, h, Or.inl rfl⟩
  have hkeeps := (createDirectories_adds h).keeps
  rw [createDirectories] at h ⊢
  split at h
  · cases (Prod.mk.inj h).1
  · rename_i hempty
    rw [if_neg hempty]
    split at h
    · exact absurd (Prod.mk.inj h).2.symm hchanged
    · rw [hkeeps.start path]
      have hadds := ensureDirectories_adds h
      obtain ⟨below, names, above, hall, hstuck⟩ := stuck_of_ensureDirectories h
      have hbelow : ∀ steps ∈ below, ∃ again, u.ensureDirectory (t.start path) steps =
          .error again ∧ (again = .missing ∨ Recurs reason again) := by
        intro steps hmem
        have hpairs := pairwise_directoriesUpwards path
        rw [hall] at hpairs
        obtain ⟨more, hmore, hthins⟩ :=
          (List.pairwise_append.mp hpairs).2.2 steps hmem names List.mem_cons_self
        obtain ⟨again, hwalk, hagain⟩ := walk_of_ensureDirectory_error hstuck.fails
        exact ⟨again, ensureDirectory_of_walk_error (hthins.walk hmore hwalk), hagain⟩
      obtain ⟨again, hagain, hrecurs⟩ := hstuck.ensureDirectories hbelow
      rw [← hall] at hagain
      refine ⟨again, hagain, ?_⟩
      rcases hrecurs with hsame | ⟨rfl, rfl⟩
      · exact Or.inl hsame
      · refine Or.inr ⟨rfl, rfl, hchanged, fun hgrounded => ?_⟩
        by_contra hup
        have hmem : names ∈ directoriesUpwards path := by simp [hall]
        have hup' : ".." ∉ names := fun h => hup (mem_parts_of_mem_directoriesUpwards hmem h)
        have hmissed := hstuck.missed.resolve_left hchanged
        exact hgrounded.ensureDirectory_ne hadds hup' hmissed hstuck.fails

end SeriesSchema.FileTree
