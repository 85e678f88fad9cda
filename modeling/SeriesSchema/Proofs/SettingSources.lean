import SeriesSchema.Overrides
import SeriesSchema.SettingsFile

/-!
# Where a setting comes from

A run goes by settings that come from three places: what the command line gives, what the table of a
settings file holds, and what holds when nothing is set.  They are put together in two steps, by
`Settings.ofTable` and by `Overrides.apply`, and in each place a setting has a name of its own and a
form of its own.

Here the settings are enumerated (`Setting`), and the same is said of all of them: each is the one
that is given, else the one in the table, else the standard one (`Setting.chosen`).  It follows that
the command line may as well be written into the table (`ofTable_edit`).  And since the table is
read by its keys alone, neither their order nor keys that are no settings matter (`ReadAlike`).

The one fact that carries this is `ofTable_eq_ok_iff`: a table gives settings exactly if each single
setting can be read from it, the three of the compiler from a table of their own.

1. tables;
2. the settings, one by one;
3. what a table says of each;
4. what the command line says of each;
5. tables that are read alike.
-/

namespace SeriesSchema

open Toml (Table Value)

/-! ## 1. Tables -/

namespace Toml.Table

/-- The table with a value under a key, in place of the one that was there. -/
def store (key : String) (v : Value) : Table → Table
  | [] => [(key, v)]
  | (k, w) :: t => if k = key then (key, v) :: t else (k, w) :: store key v t

theorem get?_cons (k key : String) (v : Value) (t : Table) :
    get? ((k, v) :: t) key = if key = k then some v else get? t key := by
  rw [get?, List.lookup_cons]
  split
  · rename_i h
    rw [if_pos (beq_iff_eq.mp h)]
  · rename_i h
    rw [if_neg (beq_eq_false_iff_ne.mp h), get?]

theorem get?_store (key key' : String) (v : Value) (t : Table) :
    (t.store key v).get? key' = if key' = key then some v else t.get? key' := by
  induction t with
  | nil => rw [store, get?_cons]
  | cons e t ih =>
    obtain ⟨k, w⟩ := e
    rw [store]
    split
    · rename_i hk
      subst hk
      rw [get?_cons, get?_cons]
      split
      · rfl
      · rfl
    · rename_i hk
      rw [get?_cons, get?_cons, ih]
      split
      · rename_i hkey
        rw [if_neg (by rw [hkey]; exact hk)]
      · rfl

/-- The entries of the table of the compiler; none, if there is no such table. -/
def compilerEntries (t : Table) : Table :=
  match t.get? "compiler" with
  | some (.table c) => c
  | _ => []

theorem compilerEntries_store_compiler (c t : Table) :
    (t.store "compiler" (.table c)).compilerEntries = c := by
  rw [compilerEntries, get?_store, if_pos rfl]

theorem compilerEntries_store_of_ne {key : String} (h : key ≠ "compiler") (v : Value) (t : Table) :
    (t.store key v).compilerEntries = t.compilerEntries := by
  rw [compilerEntries, get?_store, if_neg (Ne.symm h)]
  rfl

/-- Whether what stands under the key of the compiler, if anything does, is a table. -/
def HasPlainCompiler (t : Table) : Prop :=
  ∀ v, t.get? "compiler" = some v → ∃ c, v = .table c

end Toml.Table

/-! ## 2. The settings, one by one -/

/-- The settings. -/
inductive Setting
  | inputDir
  | outputJavaDir
  | protoOutDir
  | javaPackage
  | fileExtension
  | extractor
  | logLevel
  | executable
  | enabled
  | onFailure
deriving DecidableEq, Repr, Inhabited

namespace Setting

/-- All settings. -/
def all : List Setting :=
  [inputDir, outputJavaDir, protoOutDir, javaPackage, fileExtension, extractor, logLevel,
    executable, enabled, onFailure]

theorem mem_all (x : Setting) : x ∈ all := by
  cases x <;> decide

/-- Whether a setting stands in the table of the compiler. -/
def isOfCompiler : Setting → Bool
  | executable | enabled | onFailure => true
  | _ => false

/-- The key of a setting. -/
def key : Setting → String
  | inputDir => "input_dir"
  | outputJavaDir => "output_java_dir"
  | protoOutDir => "proto_out_dir"
  | javaPackage => "java_package"
  | fileExtension => "file_extension"
  | extractor => "extractor"
  | logLevel => "log_level"
  | executable => "executable"
  | enabled => "enabled"
  | onFailure => "on_failure"

theorem key_injective {x y : Setting} (h : x.key = y.key) : x = y := by
  cases x <;> cases y <;> first | rfl | exact absurd h (by decide)

theorem key_ne_compiler (x : Setting) : x.key ≠ "compiler" := by
  cases x <;> decide

/-- What a setting ranges over. -/
def Domain : Setting → Type
  | extractor => Extractor
  | enabled => Bool
  | onFailure => Policy
  | _ => String

/-- What a setting is in given settings. -/
def value (s : Settings) : (x : Setting) → x.Domain
  | inputDir => s.inputDir
  | outputJavaDir => s.outputJavaDir
  | protoOutDir => s.protoOutDir
  | javaPackage => s.javaPackage
  | fileExtension => s.fileExtension
  | extractor => s.extractor
  | logLevel => s.logLevel
  | executable => s.compiler.executable
  | enabled => s.compiler.enabled
  | onFailure => s.compiler.onFailure

/-- What a value in a table comes to for a setting. -/
def read : (x : Setting) → Value → Except String x.Domain
  | inputDir | outputJavaDir | protoOutDir | executable => Value.toPath
  | javaPackage | fileExtension | logLevel => Value.toText
  | extractor => Value.toExtractor
  | enabled => Value.toBool
  | onFailure => Value.toPolicy

/-- How a setting is written into a table. -/
def write : (x : Setting) → x.Domain → Value
  | inputDir | outputJavaDir | protoOutDir | executable => .string
  | javaPackage | fileExtension | logLevel => .string
  | extractor => fun e => .string e.name
  | enabled => .boolean
  | onFailure => fun p => .string p.name

/-- What is written is read back. -/
theorem read_write (x : Setting) (a : x.Domain) : x.read (x.write a) = .ok a := by
  cases x with
  | extractor => cases a <;> rfl
  | onFailure => cases a <;> rfl
  | _ => rfl

/-- What a table holds for a setting. -/
def find? (t : Table) (x : Setting) : Option Value :=
  (if x.isOfCompiler then t.compilerEntries else t).get? x.key

/-- The table with a value for a setting, in place of the one that was there. -/
def put (x : Setting) (v : Value) (t : Table) : Table :=
  if x.isOfCompiler then t.store "compiler" (.table (t.compilerEntries.store x.key v))
  else t.store x.key v

theorem find?_put (x y : Setting) (v : Value) (t : Table) :
    y.find? (x.put v t) = if y = x then some v else y.find? t := by
  have hkey : (y.key = x.key) = (y = x) := propext ⟨key_injective, congrArg key⟩
  have hne (h : y.isOfCompiler ≠ x.isOfCompiler) : y ≠ x := fun heq => h (congrArg _ heq)
  cases hx : x.isOfCompiler with
  | false =>
    have hput : x.put v t = t.store x.key v := by simp [put, hx]
    cases hy : y.isOfCompiler with
    | false => simp [find?, hput, hy, Table.get?_store, hkey]
    | true =>
      have hentries := Table.compilerEntries_store_of_ne x.key_ne_compiler v t
      simp [find?, hput, hy, hentries, hne (by simp [hx, hy])]
  | true =>
    have hput : x.put v t = t.store "compiler" (.table (t.compilerEntries.store x.key v)) := by
      simp [put, hx]
    cases hy : y.isOfCompiler with
    | false => simp [find?, hput, hy, Table.get?_store, y.key_ne_compiler, hne (by simp [hx, hy])]
    | true =>
      simp [find?, hput, hy, Table.compilerEntries_store_compiler, Table.get?_store, hkey]

theorem hasPlainCompiler_put {t : Table} (h : t.HasPlainCompiler) (x : Setting) (v : Value) :
    (x.put v t).HasPlainCompiler := by
  intro w hw
  rw [put] at hw
  split at hw
  · rw [Table.get?_store, if_pos rfl] at hw
    exact ⟨_, (Option.some.inj hw).symm⟩
  · rw [Table.get?_store, if_neg (Ne.symm x.key_ne_compiler)] at hw
    exact h w hw

end Setting

/-! ## 3. What a table says of each -/

section Results

variable {ε α β : Type}

theorem bind_eq_ok_iff {x : Except ε α} {f : α → Except ε β} {b : β} :
    (x >>= f) = .ok b ↔ ∃ a, x = .ok a ∧ f a = .ok b := by
  cases x with
  | error e => simp [bind, Except.bind]
  | ok a => simp [bind, Except.bind]

end Results

/-- What a table says of a setting: what the value that it holds for it comes to, else the standard
one. -/
def Setting.ofTable (t : Table) (x : Setting) : Except String x.Domain :=
  match x.find? t with
  | some v => x.read v
  | none => .ok (x.value .standard)

/-- A table with settings of the compiler holds each of them. -/
theorem CompilerSettings.ofTable_eq_ok_iff {t : Table} {s : CompilerSettings} :
    CompilerSettings.ofTable t = .ok s ↔
      t.setting "executable" Value.toPath ({} : CompilerSettings).executable = .ok s.executable ∧
      t.setting "enabled" Value.toBool ({} : CompilerSettings).enabled = .ok s.enabled ∧
      t.setting "on_failure" Value.toPolicy ({} : CompilerSettings).onFailure =
        .ok s.onFailure := by
  simp only [CompilerSettings.ofTable, bind_eq_ok_iff]
  constructor
  · rintro ⟨enabled, henabled, executable, hexecutable, onFailure, honFailure, h⟩
    obtain rfl := Except.ok.inj h
    exact ⟨hexecutable, henabled, honFailure⟩
  · rintro ⟨hexecutable, henabled, honFailure⟩
    exact ⟨_, henabled, _, hexecutable, _, honFailure, rfl⟩

/-- The settings of the compiler are read from their table, or from none. -/
theorem setting_compiler {t : Table} (h : t.HasPlainCompiler) :
    t.setting "compiler" CompilerSettings.ofValue Settings.standard.compiler =
      CompilerSettings.ofTable t.compilerEntries := by
  rw [Table.setting, Table.compilerEntries]
  cases hget : t.get? "compiler" with
  | none => rfl
  | some v =>
    obtain ⟨c, rfl⟩ := h v hget
    rfl

/-- **A table gives settings exactly if it says of each setting what it is in them.** -/
theorem Settings.ofTable_eq_ok_iff {t : Table} (h : t.HasPlainCompiler) {s : Settings} :
    Settings.ofTable t = .ok s ↔ ∀ x : Setting, x.ofTable t = .ok (x.value s) := by
  simp only [Settings.ofTable, bind_eq_ok_iff, setting_compiler h,
    CompilerSettings.ofTable_eq_ok_iff]
  constructor
  · rintro ⟨compiler, ⟨hexecutable, henabled, honFailure⟩, extractor, hextractor, fileExtension,
      hfileExtension, inputDir, hinputDir, javaPackage, hjavaPackage, logLevel, hlogLevel,
      outputJavaDir, houtputJavaDir, protoOutDir, hprotoOutDir, h⟩ x
    obtain rfl := Except.ok.inj h
    cases x with
    | inputDir => exact hinputDir
    | outputJavaDir => exact houtputJavaDir
    | protoOutDir => exact hprotoOutDir
    | javaPackage => exact hjavaPackage
    | fileExtension => exact hfileExtension
    | extractor => exact hextractor
    | logLevel => exact hlogLevel
    | executable => exact hexecutable
    | enabled => exact henabled
    | onFailure => exact honFailure
  · intro hall
    exact ⟨_, ⟨hall .executable, hall .enabled, hall .onFailure⟩, _, hall .extractor, _,
      hall .fileExtension, _, hall .inputDir, _, hall .javaPackage, _, hall .logLevel, _,
      hall .outputJavaDir, _, hall .protoOutDir, rfl⟩

/-! ## 4. What the command line says of each -/

/-- What the command line gives for a setting. -/
def Overrides.given? (o : Overrides) : (x : Setting) → Option x.Domain
  | .inputDir => o.inputDir
  | .outputJavaDir => o.outputJavaDir
  | .protoOutDir => o.protoOutDir
  | .javaPackage => o.javaPackage
  | .fileExtension => none
  | .extractor => o.extractor
  | .logLevel => none
  | .executable => o.executable
  | .enabled => if o.disabled then some false else none
  | .onFailure => o.onFailure

theorem Overrides.value_apply (o : Overrides) (s : Settings) (x : Setting) :
    x.value (o.apply s) = (o.given? x).getD (x.value s) := by
  cases x with
  | enabled =>
    cases hdisabled : o.disabled with
    | false =>
      have hgiven : o.given? .enabled = none := by simp [given?, hdisabled]
      have hkept : (o.apply s).compiler.enabled = s.compiler.enabled := by simp [apply, hdisabled]
      rw [hgiven]
      exact hkept
    | true =>
      have hgiven : o.given? .enabled = some false := if_pos hdisabled
      have hoff : (o.apply s).compiler.enabled = false := by simp [apply, hdisabled]
      rw [hgiven]
      exact hoff
  | _ => rfl

/-- The table with what the command line gives for a setting, if anything, written into it. -/
def Overrides.editAt (o : Overrides) (t : Table) (x : Setting) : Table :=
  match o.given? x with
  | some a => x.put (x.write a) t
  | none => t

/-- The table with all that the command line gives written into it, each under its own key. -/
def Overrides.edit (o : Overrides) (t : Table) : Table :=
  Setting.all.foldl o.editAt t

theorem find?_editAt (o : Overrides) (t : Table) (x y : Setting) :
    y.find? (o.editAt t x) =
      if y = x then ((o.given? y).map y.write).or (y.find? t) else y.find? t := by
  rw [Overrides.editAt]
  split
  · rename_i a ha
    rw [Setting.find?_put]
    split
    · rename_i hxy
      subst hxy
      rw [ha]
      rfl
    · rfl
  · rename_i hnone
    split
    · rename_i hxy
      subst hxy
      rw [hnone]
      rfl
    · rfl

/-- **In the edited table stands what the command line gives**, and otherwise what stood there. -/
theorem find?_edit (o : Overrides) (t : Table) (y : Setting) :
    y.find? (o.edit t) = ((o.given? y).map y.write).or (y.find? t) := by
  have hall (l : List Setting) (t : Table) : y.find? (l.foldl o.editAt t) =
      if y ∈ l then ((o.given? y).map y.write).or (y.find? t) else y.find? t := by
    induction l generalizing t with
    | nil => rfl
    | cons x l ih =>
      rw [List.foldl_cons, ih, find?_editAt]
      by_cases hxy : y = x
      · subst hxy
        cases o.given? y <;> simp
      · simp [hxy]
  rw [Overrides.edit, hall, if_pos y.mem_all]

theorem hasPlainCompiler_edit {t : Table} (h : t.HasPlainCompiler) (o : Overrides) :
    (o.edit t).HasPlainCompiler := by
  have hall (l : List Setting) (t : Table) (h : t.HasPlainCompiler) :
      (l.foldl o.editAt t).HasPlainCompiler := by
    induction l generalizing t with
    | nil => exact h
    | cons x l ih =>
      refine ih _ ?_
      rw [Overrides.editAt]
      split
      · exact Setting.hasPlainCompiler_put h x _
      · exact h
  exact hall Setting.all t h

/-- **What a setting is to be**: what the command line gives for it, else what the table holds, else
the standard one. -/
def Setting.chosen (o : Overrides) (t : Table) (x : Setting) : Except String x.Domain :=
  match o.given? x, x.find? t with
  | some a, _ => .ok a
  | none, some v => x.read v
  | none, none => .ok (x.value .standard)

theorem chosen_eq {o : Overrides} {t : Table} {s : Settings} (h : t.HasPlainCompiler)
    (hs : Settings.ofTable t = .ok s) (x : Setting) :
    x.chosen o t = .ok (x.value (o.apply s)) := by
  have hx := (Settings.ofTable_eq_ok_iff h).mp hs x
  rw [Overrides.value_apply, Setting.chosen]
  rw [Setting.ofTable] at hx
  cases hgiven : o.given? x with
  | some a => rfl
  | none =>
    rw [Option.getD_none, ← hx]
    cases x.find? t <;> rfl

/-- What is read from the edited table is what is chosen. -/
theorem ofTable_edit_eq_chosen (o : Overrides) (t : Table) (x : Setting) :
    x.ofTable (o.edit t) = x.chosen o t := by
  rw [Setting.ofTable, find?_edit, Setting.chosen]
  cases hgiven : o.given? x with
  | some a => exact x.read_write a
  | none => cases x.find? t <;> rfl

/-! ## 5. Tables that are read alike -/

/-- The keys under which settings, or the table of the compiler, stand in the table of a settings
file, and those in the table of the compiler. -/
def Settings.keys : List String :=
  "compiler" :: (Setting.all.filter (!·.isOfCompiler)).map Setting.key

@[inherit_doc Settings.keys]
def CompilerSettings.keys : List String :=
  (Setting.all.filter (·.isOfCompiler)).map Setting.key

/-- Tables that differ in the order of their keys, and in keys that are not among the given ones. -/
inductive Toml.Table.Alike (keys : List String) : Table → Table → Prop
  | order {t t' : Table} (hkeys : (t.map Prod.fst).Nodup) (h : t.Perm t') : Alike keys t t'
  | added {key : String} (hkey : key ∉ keys) (v : Value) (front behind : Table) :
      Alike keys (front ++ behind) (front ++ (key, v) :: behind)
  | removed {key : String} (hkey : key ∉ keys) (v : Value) (front behind : Table) :
      Alike keys (front ++ (key, v) :: behind) (front ++ behind)
  | trans {t t' t'' : Table} (h : Alike keys t t') (h' : Alike keys t' t'') : Alike keys t t''

/-- Tables of settings files that differ in the order of their keys and in keys that are no
settings, and so do their tables of the compiler. -/
inductive Settings.ReadAlike : Table → Table → Prop
  | outer {t t' : Table} (h : Table.Alike Settings.keys t t') : ReadAlike t t'
  | inner {c c' : Table} (h : Table.Alike CompilerSettings.keys c c') (front behind : Table) :
      ReadAlike (front ++ ("compiler", .table c) :: behind)
        (front ++ ("compiler", .table c') :: behind)
  | trans {t t' t'' : Table} (h : ReadAlike t t') (h' : ReadAlike t' t'') : ReadAlike t t''

namespace Toml.Table

theorem get?_append (front behind : Table) (key : String) :
    get? (front ++ behind) key = (get? front key).or (get? behind key) :=
  List.lookup_append

/-- Where no key occurs twice, their order does not matter. -/
theorem get?_of_perm {t t' : Table} (hkeys : (t.map Prod.fst).Nodup) (h : t.Perm t')
    (key : String) : t.get? key = t'.get? key := by
  induction h with
  | nil => rfl
  | cons e h ih =>
    obtain ⟨k, v⟩ := e
    rw [get?_cons, get?_cons, ih (List.nodup_cons.mp hkeys).2]
  | swap e e' t =>
    obtain ⟨k, v⟩ := e
    obtain ⟨k', v'⟩ := e'
    have hne : k' ≠ k := by
      rintro rfl
      simp at hkeys
    rw [get?_cons, get?_cons, get?_cons, get?_cons]
    split
    · rename_i hk'
      rw [if_neg (by rw [hk']; exact hne)]
    · rfl
  | trans h h' ih ih' => exact (ih hkeys).trans (ih' ((h.map _).nodup_iff.mp hkeys))

/-- A key that is not asked for is passed over. -/
theorem get?_append_cons_of_ne {k key : String} (hne : key ≠ k) (v : Value)
    (front behind : Table) :
    get? (front ++ (k, v) :: behind) key = get? (front ++ behind) key := by
  rw [get?_append, get?_append, get?_cons, if_neg hne]

theorem Alike.get?_eq {keys : List String} {t t' : Table} (h : Alike keys t t') (key : String)
    (hkey : key ∈ keys) : t.get? key = t'.get? key := by
  induction h with
  | order hkeys h => exact get?_of_perm hkeys h key
  | @added k hnot v front behind =>
    have hne : key ≠ k := by rintro rfl; exact hnot hkey
    exact (get?_append_cons_of_ne hne v front behind).symm
  | @removed k hnot v front behind =>
    have hne : key ≠ k := by rintro rfl; exact hnot hkey
    exact get?_append_cons_of_ne hne v front behind
  | trans _ _ ih ih' => exact ih.trans ih'

theorem setting_congr {α : Type} {t t' : Table} {key : String} (h : t.get? key = t'.get? key)
    (read : Value → Except String α) (standard : α) :
    t.setting key read standard = t'.setting key read standard := by
  rw [setting, setting, h]

end Toml.Table

theorem CompilerSettings.ofTable_congr {c c' : Table} (h : Table.Alike CompilerSettings.keys c c') :
    CompilerSettings.ofTable c = CompilerSettings.ofTable c' := by
  rw [ofTable, ofTable, Table.setting_congr (h.get?_eq "enabled" (by decide)),
    Table.setting_congr (h.get?_eq "executable" (by decide)),
    Table.setting_congr (h.get?_eq "on_failure" (by decide))]

/-- What settings a table gives depends on what stands under the keys of the settings alone. -/
theorem Settings.ofTable_congr {t t' : Table}
    (hcompiler : t.setting "compiler" CompilerSettings.ofValue Settings.standard.compiler =
      t'.setting "compiler" CompilerSettings.ofValue Settings.standard.compiler)
    (h : ∀ key ∈ Settings.keys, key ≠ "compiler" → t.get? key = t'.get? key) :
    Settings.ofTable t = Settings.ofTable t' := by
  have hkey (key : String) (hplain : key ∈ Settings.keys ∧ key ≠ "compiler") :
      t.get? key = t'.get? key := h key hplain.1 hplain.2
  rw [ofTable, ofTable, hcompiler, Table.setting_congr (hkey "extractor" (by decide)),
    Table.setting_congr (hkey "file_extension" (by decide)),
    Table.setting_congr (hkey "input_dir" (by decide)),
    Table.setting_congr (hkey "java_package" (by decide)),
    Table.setting_congr (hkey "log_level" (by decide)),
    Table.setting_congr (hkey "output_java_dir" (by decide)),
    Table.setting_congr (hkey "proto_out_dir" (by decide))]

/-- **Neither the order of keys nor keys that are no settings matter.** -/
theorem Settings.ReadAlike.ofTable_eq {t t' : Table} (h : Settings.ReadAlike t t') :
    Settings.ofTable t = Settings.ofTable t' := by
  induction h with
  | outer h =>
    refine Settings.ofTable_congr (Table.setting_congr (h.get?_eq "compiler" (by decide)) _ _) ?_
    intro key hkey _
    exact h.get?_eq key hkey
  | @inner c c' h front behind =>
    refine Settings.ofTable_congr ?_ fun key _ hne => ?_
    · rw [Table.setting, Table.setting, Table.get?_append, Table.get?_append, Table.get?_cons,
        Table.get?_cons, if_pos rfl, if_pos rfl]
      cases front.get? "compiler" with
      | some v => rfl
      | none => exact CompilerSettings.ofTable_congr h
    · rw [Table.get?_append_cons_of_ne hne, Table.get?_append_cons_of_ne hne]
  | trans _ _ ih ih' => exact ih.trans ih'

/-! ## 6. Together -/

/-- **Each setting is what the command line gives, else what the table holds, else the standard
one.**  If a table gives settings, then those that the command line makes of them are also given by
the table into which all that the command line gives has been written, and each is what it was to
be.  Tables that differ in the order of their keys, or in keys that are no settings, give the same
settings, or none for the same reason. -/
theorem ofTable_edit (o : Overrides) {t : Table} (hcompiler : t.HasPlainCompiler) {s : Settings}
    (hs : Settings.ofTable t = .ok s) :
    Settings.ofTable (o.edit t) = .ok (o.apply s) ∧
      (∀ x : Setting, x.chosen o t = .ok (x.value (o.apply s))) ∧
      ∀ t' t'', Settings.ReadAlike t' t'' → Settings.ofTable t' = Settings.ofTable t'' := by
  have hchosen (x : Setting) := chosen_eq (o := o) hcompiler hs x
  refine ⟨?_, hchosen, fun t' t'' h => h.ofTable_eq⟩
  rw [Settings.ofTable_eq_ok_iff (hasPlainCompiler_edit hcompiler o)]
  intro x
  rw [ofTable_edit_eq_chosen, hchosen]

namespace LayeredSettings

/-! A table that sets the package and the policy, with a key that is no setting on either level; and
a command line that gives the input directory and another policy, and switches the compiler off. -/

def unknown : String × Value := ("owner", .string "nobody")

def compilerEntries : Table := [("on_failure", .string "fail")]

def table : Table :=
  [("compiler", .table (("colour", .integer 3) :: compilerEntries)), unknown,
    ("java_package", .string "org.sample")]

def settings : Settings :=
  { javaPackage := "org.sample", compiler := { onFailure := .fail } }

def overrides : Overrides :=
  { inputDir := some "defs", disabled := true, onFailure := some .ignore }

/-- The same table without the two keys that are no settings, the other way round. -/
def plainTable : Table :=
  [("java_package", .string "org.sample"), ("compiler", .table compilerEntries)]

theorem readAlike : Settings.ReadAlike table plainTable := by
  have hinner : Settings.ReadAlike table
      [("compiler", .table compilerEntries), unknown, ("java_package", .string "org.sample")] :=
    .inner (.removed (by decide) _ [] compilerEntries) [] _
  have hremoved : Settings.ReadAlike
      [("compiler", .table compilerEntries), unknown, ("java_package", .string "org.sample")]
      [("compiler", .table compilerEntries), ("java_package", .string "org.sample")] :=
    .outer (.removed (by decide) _ [("compiler", .table compilerEntries)] _)
  exact hinner.trans (hremoved.trans (.outer (.order (by decide) (.swap _ _ []))))

end LayeredSettings

open LayeredSettings in
theorem ofTable_edit_layered :
    table.HasPlainCompiler ∧ Settings.ofTable table = .ok settings ∧
    Settings.ofTable (overrides.edit table) = .ok
      { inputDir := "defs", javaPackage := "org.sample",
        compiler := { enabled := false, onFailure := .ignore } } ∧
    Setting.executable.chosen overrides table = .ok "/usr/local/bin/protoc" ∧
    Settings.ofTable plainTable = .ok settings := by
  have hplain : table.HasPlainCompiler := by
    intro v hv
    exact ⟨_, (Option.some.inj hv).symm⟩
  have hs : Settings.ofTable table = .ok settings := rfl
  obtain ⟨hedit, hchosen, halike⟩ := ofTable_edit overrides hplain hs
  exact ⟨hplain, hs, hedit, hchosen .executable, (halike _ _ readAlike).symm.trans hs⟩

end SeriesSchema
