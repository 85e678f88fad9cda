import Mathlib.Data.List.Basic
import Mathlib.Data.List.TakeDrop
import Mathlib.Data.List.TakeWhile
import SeriesSchema.Path

/-!
# Joined paths

What the operations on paths make of a path that was put together from a directory and a name: its
parts are those of the directory and then the name, it starts where the directory starts, and its
extension is that of the name.  Hence different names give different paths.

1. names;
2. parts;
3. extensions;
4. names that may be no text.
-/

namespace SeriesSchema.Path

open Text

/-! ## 1. Names -/

theorem isName_iff {name : String} : isName name = true ↔ name ≠ "" ∧ '/' ∉ name.toList := by
  simp [isName]

theorem not_isAbsolute_of_isName {name : String} (h : isName name = true) :
    isAbsolute name = false := by
  have hslash := (isName_iff.mp h).2
  rw [isAbsolute, beq_eq_false_iff_ne]
  intro hhead
  exact hslash (List.mem_of_mem_head? hhead)

/-- A name is the only part of itself. -/
theorem parts_of_isName {name : String} (h : isName name = true) : parts name = [name] := by
  obtain ⟨hne, hslash⟩ := isName_iff.mp h
  have hnil : name.toList ≠ [] := by simpa using hne
  rw [parts, split_of_not_mem hslash]
  simp [hnil]

/-! ## 2. Parts -/

/-- A slash separates parts. -/
theorem parts_slash (s t : String) : parts (s ++ "/" ++ t) = parts s ++ parts t := by
  have hlist : (s ++ "/" ++ t).toList = s.toList ++ '/' :: t.toList := by
    simp [String.toList_append]
  rw [parts, hlist, split_append_cons, List.filter_append, List.map_append]
  rfl

/-- A slash at the end adds no part. -/
theorem parts_append_slash (s : String) : parts (s ++ "/") = parts s := by
  have := parts_slash s ""
  simpa [parts, split] using this

/-- A path of a directory and a name is the name alone, or the name behind a slash. -/
theorem join_cases (dir : String) {name : String} (h : isName name = true) :
    (dir = "" ∧ join dir name = name) ∨
      ∃ stem, join dir name = stem ++ "/" ++ name ∧ (dir = stem ∨ dir = stem ++ "/") ∧
        dir ≠ "" := by
  rw [join, not_isAbsolute_of_isName h, Bool.false_or]
  by_cases hempty : dir = ""
  · left
    simp [hempty]
  · right
    rw [if_neg (by simpa using hempty)]
    split
    · rename_i hlast
      obtain ⟨stem, hstem⟩ := List.getLast?_eq_some_iff.mp (eq_of_beq hlast)
      have hdir : dir = String.ofList stem ++ "/" := by
        rw [← String.toList_inj, hstem, String.toList_append, String.toList_ofList]
        rfl
      exact ⟨String.ofList stem, by rw [hdir], Or.inr hdir, hempty⟩
    · exact ⟨dir, rfl, Or.inl rfl, hempty⟩

/-- **The parts of a joined path** are those of the directory, and the name. -/
theorem parts_join {dir name : String} (h : isName name = true) :
    parts (join dir name) = parts dir ++ [name] := by
  rcases join_cases dir h with ⟨rfl, heq⟩ | ⟨stem, heq, rfl | rfl, -⟩
  · rw [heq, parts_of_isName h]
    rfl
  · rw [heq, parts_slash, parts_of_isName h]
  · rw [heq, parts_slash, parts_append_slash, parts_of_isName h]

/-- A joined path does not end in a slash, so its steps are its parts. -/
theorem steps_join {dir name : String} (h : isName name = true) :
    steps (join dir name) = parts dir ++ [name] := by
  obtain ⟨hne, hslash⟩ := isName_iff.mp h
  have hnil : name.toList ≠ [] := by simpa using hne
  have hlast : (join dir name).toList.getLast? = name.toList.getLast? := by
    rcases join_cases dir h with ⟨-, heq⟩ | ⟨stem, heq, -, -⟩
    · rw [heq]
    · rw [heq, String.toList_append, List.getLast?_append_of_ne_nil _ hnil]
  have hend : name.toList.getLast? ≠ some '/' := fun hslash' =>
    hslash (List.mem_of_getLast? hslash')
  rw [steps, parts_join h, hlast, if_neg (by simpa using hend), List.append_nil]

/-- A joined path starts where the directory starts. -/
theorem isAbsolute_join {dir name : String} (h : isName name = true) :
    isAbsolute (join dir name) = isAbsolute dir := by
  rcases join_cases dir h with ⟨rfl, heq⟩ | ⟨stem, heq, rfl | rfl, hne⟩
  · rw [heq, not_isAbsolute_of_isName h]
    rfl
  · have hnil : dir.toList ≠ [] := by simpa using hne
    rw [heq, isAbsolute, isAbsolute, String.append_assoc, String.toList_append,
      List.head?_append_of_ne_nil _ hnil]
  · have hnil : (stem ++ "/").toList ≠ [] := by simp
    rw [heq, isAbsolute, isAbsolute, String.toList_append, List.head?_append_of_ne_nil _ hnil]

/-- Different names give different paths. -/
theorem join_inj {dir a b : String} (ha : isName a = true) (hb : isName b = true)
    (h : join dir a = join dir b) : a = b := by
  have hparts : parts dir ++ [a] = parts dir ++ [b] := by
    rw [← parts_join ha, ← parts_join hb, h]
  simpa using hparts

/-! ## 3. Extensions -/

section BehindLast

variable {α : Type} [DecidableEq α] {stop : α}

theorem behindLast_append {stem behind : List α} (hstem : stem ≠ []) (hstop : stop ∉ behind) :
    behindLast stop (stem ++ stop :: behind) = some behind := by
  have hspan : (stem ++ stop :: behind).reverse.span (· ≠ stop) =
      (behind.reverse, stop :: stem.reverse) := by
    rw [List.span_eq_takeWhile_dropWhile, List.reverse_append, List.reverse_cons,
      List.append_assoc]
    have hall : ∀ c ∈ behind.reverse, (decide (c ≠ stop)) = true := by
      intro c hc
      have : c ≠ stop := fun heq => hstop (by rw [← heq]; exact List.mem_reverse.mp hc)
      simpa using this
    rw [List.takeWhile_append_of_pos hall, List.dropWhile_append_of_pos hall]
    simp
  rw [behindLast, hspan]
  cases hrev : stem.reverse with
  | nil => exact absurd (List.reverse_eq_nil_iff.mp hrev) hstem
  | cons c cs => simp

theorem behindLast_eq_some_iff {name behind : List α} :
    behindLast stop name = some behind ↔
      ∃ stem, stem ≠ [] ∧ name = stem ++ stop :: behind ∧ stop ∉ behind := by
  constructor
  · intro h
    rw [behindLast, List.span_eq_takeWhile_dropWhile] at h
    split at h
    · rename_i behind' last next before hspan
      obtain ⟨htake, hdrop⟩ := Prod.mk.inj hspan
      have hname := List.takeWhile_append_dropWhile (p := fun c => decide (c ≠ stop))
        (l := name.reverse)
      have hlast : ¬ (decide (last ≠ stop)) = true := by
        have hhead := List.head?_dropWhile_not (fun c => decide (c ≠ stop)) name.reverse
        rw [hdrop] at hhead
        simpa using hhead
      obtain rfl : last = stop := by simpa using hlast
      obtain rfl := Option.some.inj h
      rw [htake, hdrop] at hname
      refine ⟨(next :: before).reverse, by simp, ?_, fun hmem => ?_⟩
      · rw [← List.reverse_reverse name, ← hname]
        simp
      · rw [List.mem_reverse, ← htake] at hmem
        simpa using List.mem_takeWhile_imp hmem
    · cases h
  · rintro ⟨stem, hstem, rfl, hstop⟩
    exact behindLast_append hstem hstop

end BehindLast

/-- What stands behind the last full stop of a name is its extension. -/
theorem nameExtension?_append {stem extension : List Char} (hstem : stem ≠ [])
    (hdot : '.' ∉ extension) : nameExtension? (stem ++ '.' :: extension) = some extension :=
  behindLast_append hstem hdot

/-- **A name has an extension** exactly if that is what stands behind its last full stop, with
something before the full stop. -/
theorem nameExtension?_eq_some_iff {name extension : List Char} :
    nameExtension? name = some extension ↔
      ∃ stem, stem ≠ [] ∧ name = stem ++ '.' :: extension ∧ '.' ∉ extension :=
  behindLast_eq_some_iff

/-- **The extension of a joined path** is that of the name. -/
theorem extension?_join {dir name : String} (h : isName name = true) (hdot : name ≠ ".")
    (hdots : name ≠ "..") :
    extension? (join dir name) = (nameExtension? name.toList).map String.ofList := by
  have hname : fileName? (join dir name) = some name := by
    rw [fileName?, parts_join h, List.filter_append, List.filter_cons_of_pos (by simpa using hdot),
      List.filter_nil, List.getLast?_concat]
    split
    · rename_i heq
      exact absurd (Option.some.inj heq) hdots
    · rfl
  rw [extension?, hname, Option.bind_some]

end SeriesSchema.Path

namespace SeriesSchema

/-! ## 4. Names that may be no text -/

namespace FileName

theorem text_hasExtension {name extension : String} :
    (FileName.text name).hasExtension extension = true ↔
      Path.nameExtension? name.toList = some extension.toList := by
  rw [hasExtension, beq_iff_eq]

/-- A name has one extension only. -/
theorem hasExtension_unique {name : FileName} {a b : String} (ha : name.hasExtension a = true)
    (hb : name.hasExtension b = true) : a = b := by
  cases name with
  | text name =>
    rw [text_hasExtension] at ha hb
    exact String.toList_inj.mp (Option.some.inj (ha.symm.trans hb))
  | garble name =>
    rw [hasExtension, beq_iff_eq] at ha hb
    exact Text.utf8_injective (Option.some.inj (ha.symm.trans hb))

end FileName

namespace Path

/-- The last name of a path has the extension that the path has. -/
theorem hasExtension_text {path extension : String} {name : List Char}
    (h : extension? path = (nameExtension? name).map String.ofList) :
    (text path).hasExtension extension = true ↔ nameExtension? name = some extension.toList := by
  rw [hasExtension, beq_iff_eq, h, Option.map_eq_some_iff]
  constructor
  · rintro ⟨letters, heq, rfl⟩
    rw [heq, String.toList_ofList]
  · intro heq
    exact ⟨_, heq, String.ofList_toList⟩

/-- **The path of a name in a directory** has the extension of the name. -/
theorem hasExtension_child {dir extension : String} {name : FileName} (h : name.isName = true)
    (hdot : name ≠ ".") (hdots : name ≠ "..") :
    (child dir name).hasExtension extension = name.hasExtension extension := by
  cases name with
  | garble name => rfl
  | text name =>
    have hname : extension? (join dir name) = (nameExtension? name.toList).map String.ofList :=
      extension?_join h (fun heq => hdot (by rw [heq])) (fun heq => hdots (by rw [heq]))
    rw [Bool.eq_iff_iff, FileName.text_hasExtension]
    exact hasExtension_text hname

/-- Different names give different paths, also if they are no texts. -/
theorem child_inj {dir : String} {a b : FileName} (ha : a.isName = true) (hb : b.isName = true)
    (h : child dir a = child dir b) : a = b := by
  cases a with
  | text a =>
    cases b with
    | text b => rw [join_inj ha hb (Path.text.inj h)]
    | garble b => cases h
  | garble a =>
    cases b with
    | text b => cases h
    | garble b => rw [(Path.garbled.inj h).2]

/-- The texts among the paths of some names in a directory. -/
theorem text_mem_map_child_iff {dir path : String} {names : List FileName} :
    .text path ∈ names.map (child dir) ↔
      ∃ name : String, .text name ∈ names ∧ path = join dir name := by
  rw [List.mem_map]
  constructor
  · rintro ⟨name | name, hmem, hpath⟩
    · exact ⟨name, hmem, (Path.text.inj hpath).symm⟩
    · cases hpath
  · rintro ⟨name, hmem, rfl⟩
    exact ⟨.text name, hmem, rfl⟩

/-- The paths that are no texts among them. -/
theorem garbled_mem_map_child_iff {dir front : String} {name : Garble} {names : List FileName} :
    .garbled front name ∈ names.map (child dir) ↔ .garble name ∈ names ∧ front = dir := by
  rw [List.mem_map]
  constructor
  · rintro ⟨name' | name', hmem, hpath⟩
    · cases hpath
    · obtain ⟨rfl, rfl⟩ := Path.garbled.inj hpath
      exact ⟨hmem, rfl⟩
  · rintro ⟨hmem, rfl⟩
    exact ⟨.garble name, hmem, rfl⟩

end Path

end SeriesSchema
