import SeriesSchema.Path
import SeriesSchema.Reason

/-!
# File trees

The state that the program reads and changes: files and directories, each at a location, and the
directory against which relative paths are read.  A tree is a finite list of entries with no
location twice; the order of the list is the order in which directories are listed, and nothing else
depends on it.

The view of a tree is `get?`.  Every change of a tree is a `set`, which alters the view at one
location only (`get?_set`), or a removal.

A tree has files and directories under names, which need not be texts, and nothing else.  There are
no links in it, so that each place has one path of names; no permissions but for starting a file, so
that all can be listed, read and written; and no limit to what it can hold, so that no write fails
for want of room.

1. locations and entries;
2. the view, and changing it;
3. what a path leads to;
4. reading;
5. writing files and making directories;
6. starting programs.
-/

namespace SeriesSchema

/-! ## 1. Locations and entries -/

/-- A place in a tree: a name, then the name of the directory that holds it, and so on up to the
root, which is the empty list. -/
abbrev Location := List FileName

/-- What a file holds: text, or bytes that are the encoding of no text. -/
inductive Content
  | text (text : String)
  | bytes (bytes : Garble)
deriving DecidableEq, Inhabited

/-- What a file of some bytes holds. -/
def Content.ofBytes (bytes : ByteArray) : Content :=
  if h : bytes.validateUTF8 = true then
    .text (.fromUTF8 bytes (ByteArray.validateUTF8_eq_true_iff.mp h))
  else .bytes ⟨bytes.data.toList, by simpa [Text.isUtf8] using h⟩

/-- What stands at a location. -/
inductive Entry
  | file (content : Content) (executable : Bool)
  | directory
deriving DecidableEq, Inhabited

/-- Files and directories, and the directory that relative paths start from. -/
structure FileTree where
  entries : List (Location × Entry)
  here : Location
  nodup : (entries.map Prod.fst).Nodup

namespace FileTree

/-! ## 2. The view -/

/-- The entry that a list of entries has for a location. -/
def find? (place : Location) : List (Location × Entry) → Option Entry
  | [] => none
  | (p, e) :: more => if p = place then some e else find? place more

/-- What stands at a location; the root is always a directory. -/
def get? (t : FileTree) (place : Location) : Option Entry :=
  if place = [] then some .directory else find? place t.entries

/-- The entries with `entry` for `place`, in its old position if it had one, else at the end. -/
def insert (place : Location) (entry : Entry) : List (Location × Entry) → List (Location × Entry)
  | [] => [(place, entry)]
  | (p, e) :: more =>
    if p = place then (p, entry) :: more else (p, e) :: insert place entry more

theorem mem_map_fst_insert {place q : Location} {entry : Entry} {l : List (Location × Entry)}
    (h : q ∈ (insert place entry l).map Prod.fst) : q = place ∨ q ∈ l.map Prod.fst := by
  induction l with
  | nil => exact Or.inl (by simpa [insert] using h)
  | cons x more ih =>
    obtain ⟨p, e⟩ := x
    rw [insert] at h
    split at h
    · exact Or.inr (by simpa using h)
    · rcases List.mem_cons.mp h with rfl | h
      · exact Or.inr (by simp)
      · rcases ih h with rfl | h
        · exact Or.inl rfl
        · exact Or.inr (List.mem_cons_of_mem _ h)

theorem nodup_insert {place : Location} {entry : Entry} {l : List (Location × Entry)}
    (h : (l.map Prod.fst).Nodup) : ((insert place entry l).map Prod.fst).Nodup := by
  induction l with
  | nil => simp [insert]
  | cons x more ih =>
    obtain ⟨p, e⟩ := x
    rw [List.map_cons, List.nodup_cons] at h
    rw [insert]
    split
    · rw [List.map_cons, List.nodup_cons]
      exact h
    · rename_i hne
      rw [List.map_cons, List.nodup_cons]
      refine ⟨fun hmem => ?_, ih h.2⟩
      rcases mem_map_fst_insert hmem with heq | hmem
      · exact hne heq
      · exact h.1 hmem

theorem find?_insert (place q : Location) (entry : Entry) (l : List (Location × Entry)) :
    find? q (insert place entry l) = if q = place then some entry else find? q l := by
  induction l with
  | nil =>
    simp only [insert, find?, eq_comm]
  | cons x more ih =>
    obtain ⟨p, e⟩ := x
    rw [insert]
    by_cases hp : p = place
    · subst hp
      by_cases hq : q = p
      · simp [find?, hq]
      · have : ¬ p = q := fun h => hq h.symm
        simp [find?, hq, this]
    · rw [if_neg hp, find?, find?, ih]
      by_cases hq : p = q
      · subst hq
        simp [hp]
      · simp [hq]

/-- The tree with `entry` at `place`. -/
def set (t : FileTree) (place : Location) (entry : Entry) : FileTree :=
  { t with entries := insert place entry t.entries, nodup := nodup_insert t.nodup }

/-- Setting an entry shows at its location and nowhere else. -/
theorem get?_set (t : FileTree) (place q : Location) (entry : Entry) :
    (t.set place entry).get? q =
      if q = [] then some .directory else if q = place then some entry else t.get? q := by
  by_cases hq : q = []
  · simp [get?, hq]
  · simp [get?, set, hq, find?_insert]

/-- The root is no place for a file. -/
theorem ne_nil_of_get?_ne_directory {t : FileTree} {place : Location}
    (h : t.get? place ≠ some .directory) : place ≠ [] := by
  rintro rfl
  exact h (by simp [get?])

theorem get?_set_self {place : Location} (hplace : place ≠ []) (t : FileTree) (entry : Entry) :
    (t.set place entry).get? place = some entry := by
  rw [get?_set, if_neg hplace, if_pos rfl]

theorem get?_set_of_ne {place q : Location} (hq : q ≠ place) (t : FileTree) (entry : Entry) :
    (t.set place entry).get? q = t.get? q := by
  rw [get?_set, if_neg hq]
  split
  · rename_i hroot
    simp [get?, hroot]
  · rfl

/-- The tree without what stands at `place` or below it. -/
def remove (t : FileTree) (place : Location) : FileTree where
  entries := t.entries.filter fun p => !place.isSuffixOf p.1
  here := t.here
  nodup := t.nodup.sublist (List.Sublist.map _ List.filter_sublist)

/-- A tree with nothing but the directory that relative paths start from. -/
def empty (here : Location) : FileTree where
  entries := []
  here := here
  nodup := by simp

/-- The tree with `entry` at `place` and directories at the locations above. -/
def put (t : FileTree) (place : Location) (entry : Entry) : FileTree :=
  match place with
  | [] => t
  | name :: above =>
    (if t.get? above = some .directory then t else t.put above .directory).set (name :: above) entry

/-- What a directory holds: the names in it, each with its entry.  What a path cannot name is not
there for anyone. -/
def children (t : FileTree) (dir : Location) : List (FileName × Entry) :=
  t.entries.filterMap fun p =>
    match p.1 with
    | name :: above => if above = dir ∧ name.isName then some (name, p.2) else none
    | [] => none

/-! ## 3. What a path leads to -/

/-- The most bytes that a name may have. -/
def maxName : Nat := 255

/-- The most bytes that a path may have. -/
def maxPath : Nat := 4095

/-- Succeeds if a directory stands at a location. -/
def enter (t : FileTree) (place : Location) : Except Reason Unit :=
  match t.get? place with
  | some .directory => .ok ()
  | some (.file ..) => .error .notDirectory
  | none => .error .missing

/-- Takes one step from a location, where a directory has to stand.  What the step leads to need not
exist. -/
def step (t : FileTree) (place : Location) (name : FileName) : Except Reason Location :=
  match t.enter place with
  | .error reason => .error reason
  | .ok () =>
    if name = "." then .ok place
    else if name = ".." then .ok place.tail
    else if maxName < name.size then .error .nameTooLong
    else .ok (name :: place)

/-- Takes steps one after the other. -/
def walk (t : FileTree) (place : Location) : List String → Except Reason Location
  | [] => .ok place
  | name :: names =>
    match t.step place name with
    | .error reason => .error reason
    | .ok next => t.walk next names

/-- Where a path starts. -/
def start (t : FileTree) (path : String) : Location :=
  if Path.isAbsolute path then [] else t.here

/-- Whether the system takes a path at all. -/
def accept (path : Path) : Except Reason Unit :=
  if path.holdsNul then .error .nulInPath
  else if path.isEmpty then .error .missing
  else if maxPath < path.size then .error .nameTooLong
  else .ok ()

/-- Where the steps of a path lead. -/
def follow (t : FileTree) : Path → Except Reason Location
  | .text path => t.walk (t.start path) (Path.steps path)
  | .garbled dir name =>
    match t.walk (t.start dir) (Path.parts dir) with
    | .error reason => .error reason
    | .ok place => t.step place (.garble name)

/-- The location that a path leads to.  Directories stand all the way up to the last step; at the
location itself there need not be anything. -/
def resolve (t : FileTree) (path : Path) : Except Reason Location :=
  match accept path with
  | .error reason => .error reason
  | .ok () => t.follow path

/-- The entry that a path leads to. -/
def lookup (t : FileTree) (path : Path) : Except Reason Entry :=
  match t.resolve path with
  | .error reason => .error reason
  | .ok place =>
    match t.get? place with
    | some entry => .ok entry
    | none => .error .missing

/-! ## 4. Reading -/

/-- Whether a path leads to a directory. -/
def isDirectory (t : FileTree) (path : Path) : Bool :=
  match t.lookup path with
  | .ok .directory => true
  | _ => false

/-- Whether a path leads to a file. -/
def isFile (t : FileTree) (path : Path) : Bool :=
  match t.lookup path with
  | .ok (.file ..) => true
  | _ => false

/-- What the directory at a path holds. -/
def list (t : FileTree) (path : String) : Except Reason (List (FileName × Entry)) :=
  match t.resolve path with
  | .error reason => .error reason
  | .ok place =>
    match t.enter place with
    | .error reason => .error reason
    | .ok () => .ok (t.children place)

/-- The text of the file at a path. -/
def read (t : FileTree) (path : Path) : Except Reason String :=
  match t.lookup path with
  | .error reason => .error reason
  | .ok .directory => .error .isDirectory
  | .ok (.file (.bytes _) _) => .error .notText
  | .ok (.file (.text text) _) => .ok text

/-! ## 5. Writing -/

/-- Writes a text to the file at a path: in place of what it holds, or to a new file. -/
def write (t : FileTree) (path text : String) : Except Reason FileTree :=
  match t.resolve path with
  | .error reason => .error reason
  | .ok place =>
    match t.get? place with
    | some .directory => .error .isDirectory
    | some (.file _ executable) => .ok (t.set place (.file (.text text) executable))
    | none => .ok (t.set place (.file (.text text) false))

/-- Makes the directory that the last of the steps names; the steps before have to lead to one. -/
def makeDirectory (t : FileTree) (place : Location) : List String → Except Reason FileTree
  | [] => .error .alreadyExists
  | [name] =>
    match t.step place name with
    | .error reason => .error reason
    | .ok next =>
      if name = "." ∨ name = ".." ∨ (t.get? next).isSome then .error .alreadyExists
      else .ok (t.set next .directory)
  | name :: names =>
    match t.step place name with
    | .error reason => .error reason
    | .ok next => t.makeDirectory next names

/-- Whether steps from a location lead to a directory. -/
def leadsToDirectory (t : FileTree) (place : Location) (names : List String) : Bool :=
  match t.walk place names with
  | .ok next => t.get? next == some .directory
  | .error _ => false

/-- Makes a directory unless there is one. -/
def ensureDirectory (t : FileTree) (place : Location) (names : List String) :
    Except Reason FileTree :=
  match t.makeDirectory place names with
  | .error .alreadyExists =>
    if t.leadsToDirectory place names then .ok t else .error .alreadyExists
  | result => result

/-- Makes the first of the directories, after those that come later in the list if the place for it
is missing.  The tree that results is given also on failure, since some may have been made. -/
def ensureDirectories (t : FileTree) (place : Location) :
    List (List String) → Except Reason Unit × FileTree
  | [] => (.ok (), t)
  | names :: above =>
    match t.ensureDirectory place names with
    | .ok made => (.ok (), made)
    | .error .missing =>
      match t.ensureDirectories place above with
      | (.error reason, made) => (.error reason, made)
      | (.ok (), made) =>
        match made.ensureDirectory place names with
        | .ok made => (.ok (), made)
        | .error reason => (.error reason, made)
    | .error reason => (.error reason, t)

/-- The steps of a path, then the ever shorter steps of the paths above it. -/
def directoriesUpwards (path : String) : List (List String) :=
  let names := Path.essentialParts path
  Path.parts path :: (List.range' 1 (names.length - 1)).reverse.map names.take

/-- Makes a directory at a path and at the paths above it, as far as there are none.  There is
always one at the empty path. -/
def createDirectories (t : FileTree) (path : String) : Except Reason Unit × FileTree :=
  if path.isEmpty then (.ok (), t)
  else
    match accept path with
    | .error reason => (.error reason, t)
    | .ok () => t.ensureDirectories (t.start path) (directoriesUpwards path)

/-! ## 6. Starting programs -/

/-- The content of the file at a path, if it can be started. -/
def startable (t : FileTree) (path : String) : Except Reason Content :=
  match t.lookup path with
  | .error reason => .error reason
  | .ok (.file content true) => .ok content
  | .ok _ => .error .denied

/-- The content of the first file of some name in the directories that can be started.  If there is
none, `told` is what has been told so far; once a file was denied, this is what is told. -/
def search (t : FileTree) (name : String) (told : Reason) : List String → Except Reason Content
  | [] => .error told
  | dir :: dirs =>
    match t.startable (Path.join dir name) with
    | .ok content => .ok content
    | .error reason =>
      if reason ∈ [.missing, .notDirectory, .denied] then
        t.search name (if told = .denied then .denied else reason) dirs
      else .error reason

/-- The content of the program that a path names, if it can be started.  A name without a slash is
no path; it is looked for in the directories of the search path. -/
def program (t : FileTree) (searchPath : List String) (path : String) : Except Reason Content :=
  if path.toList.contains '/' then t.startable path
  else if path.isEmpty then .error .missing
  else if maxName < path.utf8ByteSize then .error .nameTooLong
  else t.search path .missing searchPath

end FileTree

end SeriesSchema
