import SeriesSchema.Proofs.TreeChanges

/-!
# Writing texts again

Writing some texts one after the other, and then the same texts once more: the second time nothing
changes (`writeAll_writeAll`).  In between it may well change something, since several of the texts
may go to the same place; what counts is the last one there.  So a tree is not compared step by
step, but by what it shows at the end, and by the order of its places.

1. a text at a place;
2. texts one after the other;
3. the same texts once more;
4. what writing schema files leaves alone.
-/

namespace SeriesSchema.FileTree

variable {t u : FileTree}

/-! ## 1. A text at a place -/

/-- Whether the file at a place can be started; a file that is yet to be made cannot. -/
def executableAt (t : FileTree) (place : Location) : Bool :=
  match t.get? place with
  | some (.file _ executable) => executable
  | _ => false

/-- The tree with a text in the file at a place. -/
def writeText (t : FileTree) (place : Location) (text : String) : FileTree :=
  t.set place (.file (.text text) (t.executableAt place))

/-- **Writing** puts a text where the path leads, unless that is a directory. -/
theorem write_eq (t : FileTree) (path text : String) :
    t.write path text =
      match t.resolve path with
      | .error reason => .error reason
      | .ok place =>
        if t.get? place = some .directory then .error .isDirectory
        else .ok (t.writeText place text) := by
  rw [write]
  cases t.resolve path with
  | error reason => rfl
  | ok place =>
    dsimp only
    rw [writeText, executableAt]
    cases t.get? place with
    | none => rfl
    | some entry =>
      cases entry with
      | file content executable => rfl
      | directory => rfl

theorem writesAt_writeText {place : Location} (h : t.get? place ≠ some .directory)
    (text : String) : t.WritesAt (t.writeText place text) place text :=
  ⟨rfl, h, ⟨_, get?_set_self (ne_nil_of_get?_ne_directory h) t _⟩,
    fun _ hne => get?_set_of_ne hne t _⟩

/-- Writing changes for no file whether it can be started. -/
theorem executableAt_writeText (t : FileTree) (place other : Location) (text : String) :
    (t.writeText place text).executableAt other = t.executableAt other := by
  by_cases hother : other = place
  · subst hother
    by_cases hroot : other = []
    · subst hroot
      rfl
    · rw [executableAt, writeText, get?_set_self hroot]
  · rw [executableAt, writeText, get?_set_of_ne hother, ← executableAt]

/-! ## 2. Texts one after the other -/

/-- The tree after some texts were written, each at its place. -/
def writeAll (t : FileTree) (writes : List (Location × String)) : FileTree :=
  writes.foldl (fun t w => t.writeText w.1 w.2) t

@[simp] theorem writeAll_nil (t : FileTree) : t.writeAll [] = t := rfl

@[simp] theorem writeAll_cons (t : FileTree) (w : Location × String)
    (writes : List (Location × String)) :
    t.writeAll (w :: writes) = (t.writeText w.1 w.2).writeAll writes := rfl

theorem writeAll_append (t : FileTree) (writes more : List (Location × String)) :
    t.writeAll (writes ++ more) = (t.writeAll writes).writeAll more :=
  List.foldl_append

theorem here_writeAll (t : FileTree) (writes : List (Location × String)) :
    (t.writeAll writes).here = t.here := by
  induction writes generalizing t with
  | nil => rfl
  | cons w writes ih => exact ih (t.writeText w.1 w.2)

theorem executableAt_writeAll (t : FileTree) (writes : List (Location × String))
    (place : Location) : (t.writeAll writes).executableAt place = t.executableAt place := by
  induction writes generalizing t with
  | nil => rfl
  | cons w writes ih => rw [writeAll_cons, ih, executableAt_writeText]

/-- **What is found after writing** is what was written last, or else what was there before. -/
theorem find?_writeAll (t : FileTree) (writes : List (Location × String)) (place : Location) :
    find? place (t.writeAll writes).entries =
      ((writes.reverse.lookup place).map fun text =>
        Entry.file (.text text) (t.executableAt place)).or (find? place t.entries) := by
  induction writes generalizing t with
  | nil => rfl
  | cons w writes ih =>
    rw [writeAll_cons, ih, executableAt_writeText, writeText, set, find?_insert, List.reverse_cons,
      List.lookup_append]
    cases writes.reverse.lookup place with
    | some text => rfl
    | none =>
      obtain ⟨other, text⟩ := w
      by_cases hplace : place = other
      · subst hplace
        simp
      · have hne : (place == other) = false := beq_eq_false_iff_ne.mpr hplace
        simp [List.lookup_cons, hplace, hne]

/-! ## 3. The same texts once more -/

/-- Something is found at the places of the entries, and nowhere else. -/
theorem isSome_find?_iff {place : Location} {l : List (Location × Entry)} :
    (find? place l).isSome ↔ place ∈ l.map Prod.fst := by
  induction l with
  | nil => simp [find?]
  | cons x more ih =>
    obtain ⟨p, e⟩ := x
    rw [find?, List.map_cons, List.mem_cons]
    split
    · rename_i heq
      simp [heq]
    · rename_i hne
      rw [ih]
      constructor
      · exact Or.inr
      · intro h
        exact h.resolve_left fun heq => hne heq.symm

/-- Where an entry was, the new one takes its position. -/
theorem map_fst_insert_of_mem {place : Location} {entry : Entry} {l : List (Location × Entry)}
    (h : place ∈ l.map Prod.fst) : (insert place entry l).map Prod.fst = l.map Prod.fst := by
  induction l with
  | nil => cases h
  | cons x more ih =>
    obtain ⟨p, e⟩ := x
    rw [insert]
    split
    · rfl
    · rename_i hne
      rw [List.map_cons, List.map_cons, ih]
      exact (List.mem_cons.mp h).resolve_left fun heq => hne heq.symm

/-- Writing to files that are there leaves the order of the places as it is. -/
theorem map_fst_writeAll {t : FileTree} {writes : List (Location × String)}
    (h : ∀ w ∈ writes, w.1 ∈ t.entries.map Prod.fst) :
    (t.writeAll writes).entries.map Prod.fst = t.entries.map Prod.fst := by
  induction writes generalizing t with
  | nil => rfl
  | cons w writes ih =>
    have hkept : (t.writeText w.1 w.2).entries.map Prod.fst = t.entries.map Prod.fst :=
      map_fst_insert_of_mem (h w List.mem_cons_self)
    rw [writeAll_cons, ih, hkept]
    intro other hmem
    rw [hkept]
    exact h other (List.mem_cons_of_mem _ hmem)

/-- Entries are given by the order of their places and by what is found at each. -/
theorem entries_ext {l m : List (Location × Entry)} (hnodup : (l.map Prod.fst).Nodup)
    (hplaces : l.map Prod.fst = m.map Prod.fst) (hfind : ∀ place, find? place l = find? place m) :
    l = m := by
  induction l generalizing m with
  | nil =>
    cases m with
    | nil => rfl
    | cons y more => cases hplaces
  | cons x rest ih =>
    cases m with
    | nil => cases hplaces
    | cons y more =>
      obtain ⟨p, e⟩ := x
      obtain ⟨q, f⟩ := y
      obtain ⟨hplace, hrest⟩ := List.cons.inj hplaces
      obtain rfl : p = q := hplace
      rw [List.map_cons, List.nodup_cons] at hnodup
      have hhead : some e = some f := by simpa [find?] using hfind p
      obtain rfl := Option.some.inj hhead
      rw [ih hnodup.2 hrest fun place => ?_]
      by_cases hplace : p = place
      · -- no other entry has the place of the first one
        subst hplace
        have habsent : ∀ {l : List (Location × Entry)}, p ∉ l.map Prod.fst → find? p l = none := by
          intro l hmem
          rw [← isSome_find?_iff] at hmem
          simpa using hmem
        rw [habsent hnodup.1, habsent (hrest ▸ hnodup.1)]
      · simpa [find?, hplace] using hfind place

/-- A tree is given by where relative paths start, its places in their order, and what is found at
each of them. -/
theorem eq_of_find? (hhere : t.here = u.here)
    (hplaces : t.entries.map Prod.fst = u.entries.map Prod.fst)
    (hfind : ∀ place, find? place t.entries = find? place u.entries) : t = u := by
  have hentries := entries_ext t.nodup hplaces hfind
  cases t
  cases u
  cases hentries
  cases hhere
  rfl

/-- **Writing the same texts once more changes nothing.** -/
theorem writeAll_writeAll (t : FileTree) (writes : List (Location × String)) :
    (t.writeAll writes).writeAll writes = t.writeAll writes := by
  have hthere : ∀ w ∈ writes, w.1 ∈ (t.writeAll writes).entries.map Prod.fst := by
    intro w hmem
    rw [← isSome_find?_iff, find?_writeAll]
    have hlookup : (writes.reverse.lookup w.1).isSome := by
      rw [List.lookup_isSome_iff]
      exact ⟨w, List.mem_reverse.mpr hmem, beq_self_eq_true w.1⟩
    obtain ⟨text, htext⟩ := Option.isSome_iff_exists.mp hlookup
    rw [htext]
    rfl
  refine eq_of_find? (here_writeAll _ writes) (map_fst_writeAll hthere) fun place => ?_
  rw [find?_writeAll, executableAt_writeAll, find?_writeAll]
  cases writes.reverse.lookup place with
  | none => rfl
  | some text => rfl

/-! ## 4. What writing schema files leaves alone -/

/-- A tree is another one but for the texts of schema files: it has the same directories, and the
same at all other names. -/
structure Rewrites (before after : FileTree) : Prop where
  here : after.here = before.here
  directory_iff : ∀ place, after.get? place = some .directory ↔
    before.get? place = some .directory
  elsewhere : ∀ (name : FileName) (dir : Location), name.hasExtension "proto" = false →
    after.get? (name :: dir) = before.get? (name :: dir)

namespace Rewrites

protected theorem refl (t : FileTree) : t.Rewrites t :=
  ⟨rfl, fun _ => Iff.rfl, fun _ _ _ => rfl⟩

theorem keeps (h : t.Rewrites u) : t.Keeps u :=
  ⟨h.here, fun place hdir => (h.directory_iff place).mpr hdir⟩

/-- A schema file is written where no directory is. -/
theorem writeText (h : t.Rewrites u) {name : FileName} {dir : Location}
    (hname : name.hasExtension "proto" = true)
    (hnot : u.get? (name :: dir) ≠ some .directory) (text : String) :
    t.Rewrites (u.writeText (name :: dir) text) := by
  have hwrites := writesAt_writeText hnot text
  obtain ⟨executable, hget⟩ := hwrites.text
  refine ⟨h.here, fun place => ?_, fun other above hother => ?_⟩
  · rw [← h.directory_iff place]
    by_cases hplace : place = name :: dir
    · subst hplace
      rw [hget]
      simp [hnot]
    · rw [hwrites.elsewhere place hplace]
  · rw [← h.elsewhere other above hother]
    refine hwrites.elsewhere _ fun heq => ?_
    rw [(List.cons.inj heq).1, hname] at hother
    cases hother

end Rewrites

end SeriesSchema.FileTree
