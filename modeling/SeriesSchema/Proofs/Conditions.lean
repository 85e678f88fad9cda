import Mathlib.Data.List.Basic
import SeriesSchema.Settings

/-!
# The conditions on settings

Settings are checked condition by condition.  Here the conditions are a list (`Condition.all`), and
each of them can be said of settings without the others (`Condition.Holds`).  Settings have no fault
exactly if every condition holds; else their fault is that of the first condition in the list that
does not hold, whatever becomes of those behind it (`fault?_first`).

The last condition is about the package name.  The check looks at the parts between full stops, and
asks whether each is an identifier.  What is asked for is a grammar (`IsPackageName`): a segment, or
a segment, a full stop and a package name.  A segment holds no full stop, so the parts are the
segments (`isPackage_iff`).

1. package names;
2. the conditions;
3. the check.
-/

namespace SeriesSchema

open Text

/-! ## 1. Package names -/

/-- A segment of a package name: a letter, `_` or `$`, and then any number of letters, numbers, `_`
and `$`. -/
inductive IsSegment : List Char → Prop
  | intro {first : Char} {more : List Char}
      (first_mem : isAlphabetic first = true ∨ first = '_' ∨ first = '$')
      (more_mem : ∀ c ∈ more, isAlphanumeric c = true ∨ c = '_' ∨ c = '$') :
      IsSegment (first :: more)

/-- A package name: one or more segments with single full stops between them. -/
inductive IsPackageName : List Char → Prop
  | segment {segment : List Char} (h : IsSegment segment) : IsPackageName segment
  | dotted {segment rest : List Char} (h : IsSegment segment) (hrest : IsPackageName rest) :
      IsPackageName (segment ++ '.' :: rest)

/-- Identifiers are segments. -/
theorem isIdentifier_iff {segment : List Char} :
    isIdentifier segment = true ↔ IsSegment segment := by
  cases segment with
  | nil =>
    constructor
    · intro h
      cases h
    · intro h
      cases h
  | cons first more =>
    rw [isIdentifier, Bool.and_eq_true, List.all_eq_true]
    simp only [isIdentifierStart, isIdentifierChar, Bool.or_eq_true, beq_iff_eq, or_assoc]
    constructor
    · rintro ⟨hfirst, hmore⟩
      exact ⟨hfirst, hmore⟩
    · rintro ⟨hfirst, hmore⟩
      exact ⟨hfirst, hmore⟩

/-- A full stop is no identifier character. -/
theorem IsSegment.not_mem {segment : List Char} (h : IsSegment segment) : '.' ∉ segment := by
  have hstop : isIdentifierChar '.' = false := (word_classes_of_ascii (by decide)).1
  rw [← isIdentifier_iff] at h
  cases segment with
  | nil => cases h
  | cons first more =>
    rw [isIdentifier, Bool.and_eq_true, List.all_eq_true] at h
    intro hmem
    have hchar : isIdentifierChar '.' = true := by
      rcases List.mem_cons.mp hmem with heq | hmem
      · rw [heq]
        exact isIdentifierChar_of_isIdentifierStart h.1
      · exact h.2 '.' hmem
    rw [hstop] at hchar
    cases hchar

/-- Segments with full stops between them are a package name. -/
theorem isPackageName_joinWith {segments : List (List Char)} (hne : segments ≠ [])
    (h : ∀ segment ∈ segments, IsSegment segment) : IsPackageName (joinWith '.' segments) := by
  induction segments with
  | nil => exact absurd rfl hne
  | cons segment more ih =>
    have hsegment := h segment List.mem_cons_self
    cases more with
    | nil => exact .segment hsegment
    | cons next rest =>
      exact .dotted hsegment (ih (List.cons_ne_nil next rest) fun other hmem =>
        h other (List.mem_cons_of_mem _ hmem))

/-- The parts of a package name between full stops are its segments. -/
theorem IsPackageName.isSegment_of_mem_split {text : List Char} (h : IsPackageName text) :
    ∀ part ∈ split '.' text, IsSegment part := by
  induction h with
  | segment h =>
    rw [split_of_not_mem h.not_mem]
    intro part hmem
    rw [List.mem_singleton.mp hmem]
    exact h
  | dotted h _ ih =>
    rw [split_append_cons, split_of_not_mem h.not_mem]
    intro part hmem
    rcases List.mem_cons.mp hmem with rfl | hmem
    · exact h
    · exact ih part hmem

/-- **The check of a package name** accepts exactly the texts of the grammar. -/
theorem isPackage_iff {package : String} :
    isPackage package = true ↔ IsPackageName package.toList := by
  rw [isPackage, List.all_eq_true]
  constructor
  · intro h
    rw [← join_split '.' package.toList]
    exact isPackageName_joinWith (split_ne_nil _ _) fun part hmem =>
      isIdentifier_iff.mp (h part hmem)
  · intro h part hmem
    exact isIdentifier_iff.mpr (h.isSegment_of_mem_split part hmem)

instance (package : String) : Decidable (IsPackageName package.toList) :=
  decidable_of_iff _ isPackage_iff

/-! ## 2. The conditions -/

/-- The path that a setting holds. -/
def Settings.path (s : Settings) : PathSetting → String
  | .inputDir => s.inputDir
  | .outputJavaDir => s.outputJavaDir
  | .protoOutDir => s.protoOutDir
  | .executable => s.compiler.executable

/-- What is asked of settings. -/
inductive Condition
  /-- a path is given -/
  | path (setting : PathSetting)
  /-- an extension is given -/
  | extension
  /-- the extension is given without its full stop -/
  | noFullStop
  /-- the package name is one -/
  | package
deriving DecidableEq, Repr

namespace Condition

/-- The conditions in the order in which they are checked. -/
def all : List Condition :=
  [.path .inputDir, .path .outputJavaDir, .path .protoOutDir, .path .executable, .extension,
    .noFullStop, .package]

/-- Whether settings satisfy a condition. -/
def Holds (s : Settings) : Condition → Prop
  | path setting => s.path setting ≠ ""
  | extension => s.fileExtension ≠ ""
  | noFullStop => s.fileExtension.toList.head? ≠ some '.'
  | package => IsPackageName s.javaPackage.toList

instance (s : Settings) (k : Condition) : Decidable (k.Holds s) :=
  match k with
  | path setting => inferInstanceAs (Decidable (s.path setting ≠ ""))
  | extension => inferInstanceAs (Decidable (s.fileExtension ≠ ""))
  | noFullStop => inferInstanceAs (Decidable (s.fileExtension.toList.head? ≠ some '.'))
  | package => inferInstanceAs (Decidable (IsPackageName s.javaPackage.toList))

/-- The fault of settings that do not satisfy a condition. -/
def fault (s : Settings) : Condition → SettingsFault
  | path setting => .emptyPath setting
  | extension => .emptyExtension
  | noFullStop => .dottedExtension s.fileExtension
  | package => .badPackage s.javaPackage

/-- The key of the setting that a condition is about. -/
def key : Condition → String
  | path setting => setting.key
  | extension | noFullStop => "file_extension"
  | package => "java_package"

/-- The words for a fault name the setting that is at fault. -/
theorem message_fault (s : Settings) (k : Condition) :
    ∃ before after, (k.fault s).message = before ++ k.key ++ after := by
  cases k with
  | path setting =>
    refine ⟨"", " cannot be empty", ?_⟩
    show setting.key ++ " cannot be empty" = _
    rw [String.empty_append]
    rfl
  | extension => exact ⟨"", " cannot be empty", rfl⟩
  | noFullStop =>
    have hwords : "file_extension should not start with a dot: " =
        "file_extension" ++ " should not start with a dot: " := by decide
    refine ⟨"", " should not start with a dot: " ++ s.fileExtension, ?_⟩
    show "file_extension should not start with a dot: " ++ s.fileExtension = _
    rw [hwords, String.empty_append, String.append_assoc]
    rfl
  | package =>
    have hwords : "invalid java_package: '" = "invalid " ++ "java_package" ++ ": '" := by decide
    refine ⟨"invalid ", ": '" ++ s.javaPackage ++ "'", ?_⟩
    show "invalid java_package: '" ++ s.javaPackage ++ "'" = _
    rw [hwords, String.append_assoc, String.append_assoc, String.append_assoc, String.append_assoc]
    rfl

end Condition

/-! ## 3. The check -/

/-- The fault of the first of some conditions that settings do not satisfy. -/
def firstFault (s : Settings) : List Condition → Option SettingsFault
  | [] => none
  | k :: more => if k.Holds s then firstFault s more else some (k.fault s)

theorem firstFault_eq_none_iff {s : Settings} {ks : List Condition} :
    firstFault s ks = none ↔ ∀ k ∈ ks, k.Holds s := by
  induction ks with
  | nil => simp [firstFault]
  | cons k more ih =>
    rw [firstFault, List.forall_mem_cons, ← ih]
    by_cases hk : k.Holds s
    · simp [hk]
    · simp [hk]

theorem firstFault_eq_some_iff {s : Settings} {ks : List Condition} {fault : SettingsFault} :
    firstFault s ks = some fault ↔
      ∃ before k after, ks = before ++ k :: after ∧ (∀ j ∈ before, j.Holds s) ∧ ¬ k.Holds s ∧
        fault = k.fault s := by
  induction ks with
  | nil => simp [firstFault]
  | cons first more ih =>
    rw [firstFault]
    split
    · rename_i hfirst
      rw [ih]
      constructor
      · rintro ⟨before, k, after, rfl, hbefore, hk⟩
        refine ⟨first :: before, k, after, rfl, fun j hmem => ?_, hk⟩
        rcases List.mem_cons.mp hmem with rfl | hmem
        · exact hfirst
        · exact hbefore j hmem
      · rintro ⟨before, k, after, heq, hbefore, hk⟩
        cases before with
        | nil =>
          obtain ⟨rfl, -⟩ := List.cons.inj heq
          exact absurd hfirst hk.1
        | cons j before =>
          obtain ⟨rfl, rfl⟩ := List.cons.inj heq
          exact ⟨before, k, after, rfl, fun i hmem => hbefore i (List.mem_cons_of_mem _ hmem), hk⟩
    · rename_i hfirst
      constructor
      · intro h
        exact ⟨[], first, more, rfl, by simp, hfirst, (Option.some.inj h).symm⟩
      · rintro ⟨before, k, after, heq, hbefore, -, rfl⟩
        cases before with
        | nil =>
          obtain ⟨rfl, -⟩ := List.cons.inj heq
          rfl
        | cons j before =>
          obtain ⟨rfl, -⟩ := List.cons.inj heq
          exact absurd (hbefore first List.mem_cons_self) hfirst

/-- The check goes through the conditions in their order. -/
theorem fault?_eq_firstFault (s : Settings) : s.fault? = firstFault s Condition.all := by
  simp only [Settings.fault?, Condition.all, firstFault, Condition.Holds, Condition.fault,
    Settings.path, ← isPackage_iff, String.isEmpty_iff, ne_eq, ite_not, Bool.not_eq_true']
  cases isPackage s.javaPackage with
  | false => rfl
  | true => rfl

/-- **What the check comes to.**  Settings have no fault exactly if all conditions hold.  They have
the fault of a condition exactly if those before it hold and it does not itself; those behind it do
not matter. -/
theorem fault?_first (s : Settings) :
    (s.fault? = none ↔ ∀ k ∈ Condition.all, k.Holds s) ∧
    ∀ fault, s.fault? = some fault ↔
      ∃ before k after, Condition.all = before ++ k :: after ∧ (∀ j ∈ before, j.Holds s) ∧
        ¬ k.Holds s ∧ fault = k.fault s := by
  rw [fault?_eq_firstFault]
  exact ⟨firstFault_eq_none_iff, fun fault => firstFault_eq_some_iff⟩

/-- Settings with three faults: the first one is told. -/
example :
    ({ protoOutDir := "", fileExtension := ".java", javaPackage := "a..b" } : Settings).fault? =
      some (.emptyPath .protoOutDir) := by
  decide

end SeriesSchema
