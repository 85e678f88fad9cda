import SeriesSchema.Proofs.ClosedTexts
import SeriesSchema.Proofs.SeparatedWords

/-!
# Plain texts

Texts that are put together from ASCII words, blanks and single signs, and what the two readers make
of such pieces.  Both readers go from left to right, and what they carry from one piece to the next
is different: the reading of tokens a mode, the search by pattern a run of word characters.  So
there is one relation for each, with the same laws: `Mode.Reads`, and here `Scans`.

A piece may be read in several ways by the search, depending on the run that stands before it.  If
the fields that it gives do not depend on it, the piece *passes* (`Passes`).

1. words and blanks;
2. the tokens of pieces;
3. the fields of pieces.
-/

namespace SeriesSchema

open Text

/-! ## 1. Words and blanks -/

/-- An ASCII word: letters, digits and `_`. -/
structure PlainWord where
  text : String
  ne_empty : text ≠ "" := by decide
  plain : text.toList.all (fun c => c.isAlphanum || c == '_') = true := by decide

/-- Blanks, perhaps none. -/
abbrev Blanks := { text : List Char // text.all isBlank = true }

/-- Blanks, at least one. -/
abbrev Space := { text : List Char // text ≠ [] ∧ text.all isBlank = true }

theorem Text.toNat_lt_of_isAlphanum {c : Char} (h : c.isAlphanum = true) : c.toNat < 128 := by
  have hbound (last : Char) (hlast : last.toNat < 128) (hle : c.val ≤ last.val) : c.toNat < 128 :=
    Nat.lt_of_le_of_lt (UInt32.le_iff_toNat_le.mp hle) hlast
  rcases Bool.or_eq_true_iff.mp h with halpha | hdigit
  · rcases Bool.or_eq_true_iff.mp halpha with hupper | hlower
    · exact hbound 'Z' (by decide) (of_decide_eq_true hupper).2
    · exact hbound 'z' (by decide) (of_decide_eq_true (Bool.and_eq_true_iff.mp hlower).2)
  · exact hbound '9' (by decide) (of_decide_eq_true (Bool.and_eq_true_iff.mp hdigit).2)

namespace PlainWord

variable (w : PlainWord)

/-- The characters of a word. -/
def chars : List Char := w.text.toList

theorem ofList_chars : String.ofList w.chars = w.text :=
  String.ofList_toList

theorem chars_ne_nil : w.chars ≠ [] :=
  fun h => w.ne_empty (String.toList_eq_nil_iff.mp h)

/-- To both readers it is a word. -/
theorem classes_of_mem {c : Char} (h : c ∈ w.chars) :
    isIdentifierChar c = true ∧ isWordChar c = true := by
  have hplain := List.all_eq_true.mp w.plain c h
  have hascii : c.toNat < 128 := by
    rw [Bool.or_eq_true, beq_iff_eq] at hplain
    rcases hplain with halphanum | rfl
    · exact toNat_lt_of_isAlphanum halphanum
    · decide
  obtain ⟨hidentifier, hword⟩ := word_classes_of_ascii hascii
  rw [hidentifier, hword, hplain]
  exact ⟨rfl, rfl⟩

theorem not_mem_chars {c : Char} (h : (c.isAlphanum || c == '_') = false) : c ∉ w.chars := by
  intro hmem
  rw [List.all_eq_true.mp w.plain c hmem] at h
  cases h

end PlainWord

theorem not_mem_of_blanks {text : List Char} (h : text.all isBlank = true) {c : Char}
    (hc : isBlank c = false) : c ∉ text := by
  intro hmem
  rw [List.all_eq_true.mp h c hmem] at hc
  cases hc

/-! ## 2. Tokens -/

namespace Mode

theorem reads_blanks {text : List Char} (h : text.all isBlank = true) :
    between.Reads text [] between := by
  induction text with
  | nil => exact .nil between
  | cons c cs ih =>
    obtain ⟨hc, hcs⟩ := Bool.and_eq_true_iff.mp h
    have hstep : between.step c = (between, []) := by simp [step, start, hc]
    exact .skip hstep (ih hcs)

theorem reads_sign {c : Char} (h : start c = (between, [.sign c])) :
    between.Reads [c] [.sign c] between := by
  have hstep : between.step c = (between, [.sign c]) := h
  exact .cons hstep (.nil between)

/-- A word goes on. -/
theorem reads_more (read : String) {text : List Char}
    (h : ∀ c ∈ text, isIdentifierChar c = true) :
    (word read).Reads text [] (word (read ++ String.ofList text)) := by
  induction text generalizing read with
  | nil => simpa using Reads.nil (word read)
  | cons c cs ih =>
    have hstep : (word read).step c = (word (read.push c), []) := by
      simp [step, h c List.mem_cons_self]
    have hpush : read ++ String.ofList (c :: cs) = read.push c ++ String.ofList cs := by
      rw [← String.toList_inj]
      simp
    rw [hpush]
    exact .skip hstep (ih _ fun d hd => h d (List.mem_cons_of_mem _ hd))

/-- An identifier character that is none of the openers begins a word. -/
theorem start_of_isIdentifierChar {c : Char} (h : isIdentifierChar c = true) :
    start c = (word (String.singleton c), []) := by
  have hne : ∀ d, isIdentifierChar d = false → c ≠ d := by
    rintro d hd rfl
    rw [h] at hd
    cases hd
  have hblank : isBlank c = false := by
    cases hc : isBlank c with
    | false => rfl
    | true =>
      rw [(not_word_of_isBlank hc).1] at h
      cases h
  have hascii : ∀ d : Char, d.toNat < 128 → (d.isAlphanum || d == '_' || d == '$') = false →
      c ≠ d := by
    intro d hd hplain
    exact hne d ((word_classes_of_ascii hd).1.trans hplain)
  simp [start, hblank, h, hascii '/' (by decide) (by decide), hascii '"' (by decide) (by decide),
    hascii '\'' (by decide) (by decide)]

/-- Whether a text begins with what goes on with no word. -/
def EndsWord (text : List Char) : Prop :=
  ∃ c more, text = c :: more ∧ isIdentifierChar c = false

theorem endsWord_cons {c : Char} (h : isIdentifierChar c = false) (more : List Char) :
    EndsWord (c :: more) :=
  ⟨c, more, rfl, h⟩

/-- Blanks end a word, and if there are none, what follows them does. -/
theorem EndsWord.blanks (b : Blanks) {text : List Char} (h : EndsWord text) :
    EndsWord (b.1 ++ text) := by
  obtain ⟨b, hb⟩ := b
  cases b with
  | nil => exact h
  | cons c cs => exact endsWord_cons (not_word_of_isBlank (Bool.and_eq_true_iff.mp hb).1).1 _

theorem endsWord_space (s : Space) (text : List Char) : EndsWord (s.1 ++ text) := by
  obtain ⟨s, hne, hs⟩ := s
  obtain ⟨c, cs, rfl⟩ := List.exists_cons_of_ne_nil hne
  exact endsWord_cons (not_word_of_isBlank (Bool.and_eq_true_iff.mp hs).1).1 _

/-- **A word is a token**, if what stands behind it does not go on with it. -/
theorem reads_word (w : PlainWord) {text : List Char} {ts : List Token} {m : Mode}
    (hends : EndsWord text) (h : between.Reads text ts m) :
    between.Reads (w.chars ++ text) (.word w.text :: ts) m := by
  obtain ⟨c, behind, rfl, hc⟩ := hends
  obtain ⟨first, more, hchars⟩ := List.exists_cons_of_ne_nil w.chars_ne_nil
  have hclasses : ∀ d ∈ first :: more, isIdentifierChar d = true := fun d hd =>
    (w.classes_of_mem (hchars ▸ hd)).1
  have hstart := start_of_isIdentifierChar (hclasses first List.mem_cons_self)
  have hmore := reads_more (String.singleton first) fun d hd =>
    hclasses d (List.mem_cons_of_mem _ hd)
  have htext : String.singleton first ++ String.ofList more = w.text := by
    rw [← w.ofList_chars, hchars, ← String.toList_inj]
    simp
  rw [htext] at hmore
  -- the word is in hand until the character behind it is read
  have hleaves : (word w.text).Leaves c := leaves_of_isOutside rfl hc (by simp) (by simp)
  rw [hchars]
  exact .skip hstart (hmore.append (reads_of_leaves hleaves h))

/-- A word and what separates it from the next one. -/
theorem reads_word_space (w : PlainWord) (s : Space) :
    between.Reads (w.chars ++ s.1) [.word w.text] between := by
  have hends : EndsWord s.1 := by simpa using endsWord_space s []
  exact reads_word w hends (reads_blanks s.2.2)

/-- A word and a sign right behind it. -/
theorem reads_word_sign (w : PlainWord) {c : Char} (hc : isIdentifierChar c = false)
    (h : start c = (between, [.sign c])) :
    between.Reads (w.chars ++ [c]) [.word w.text, .sign c] between :=
  reads_word w (endsWord_cons hc []) (reads_sign h)

/-- Parts that are read one after the other. -/
theorem Reads.flatMap {α : Type} {text : α → List Char} {tokens : α → List Token}
    (h : ∀ a, between.Reads (text a) (tokens a) between) (l : List α) :
    between.Reads (l.flatMap text) (l.flatMap tokens) between := by
  induction l with
  | nil => exact .nil between
  | cons a l ih => exact (h a).append ih

end Mode

/-! ## 3. Fields -/

namespace SeparatedWord

/-- From `run` on, a part of a text gives some fields, and leads to `run'`. -/
def Scans (run : Option (List Char)) (text : List Char) (names : List String)
    (run' : Option (List Char)) : Prop :=
  ∀ rest, scan run (text ++ rest) = names ++ scan run' rest

variable {run run' run'' : Option (List Char)} {s t : List Char} {ns ms : List String}

protected theorem Scans.nil (run : Option (List Char)) : Scans run [] [] run :=
  fun _ => rfl

/-- A scan goes on where it ended. -/
protected theorem Scans.append (h : Scans run s ns run') (h' : Scans run' t ms run'') :
    Scans run (s ++ t) (ns ++ ms) run'' := by
  intro rest
  rw [List.append_assoc, h, h', List.append_assoc]

theorem scans_space (run : Option (List Char)) (s : Space) : Scans run s.1 [] (some []) := by
  obtain ⟨text, hne, hblank⟩ := s
  obtain ⟨c, cs, rfl⟩ := List.exists_cons_of_ne_nil hne
  obtain ⟨hc, hcs⟩ := Bool.and_eq_true_iff.mp hblank
  intro rest
  rw [List.cons_append, scan_blank run hc]
  exact scan_blanks (List.all_eq_true.mp hcs) rest

theorem scans_word (run : Option (List Char)) (w : PlainWord) :
    Scans run w.chars [] (run.map (· ++ w.chars)) :=
  fun rest => scan_word run (fun _ hc => (w.classes_of_mem hc).2) rest

/-- Signs that are no separators. -/
theorem scans_sign (run : Option (List Char)) {c : Char}
    (hc : c = '.' ∨ c = '[' ∨ c = ']' ∨ c = '\x7b' ∨ c = '\x7d') : Scans run [c] [] none := by
  intro rest
  rcases hc with rfl | rfl | rfl | rfl | rfl <;>
    exact scan_other run (by decide) ((word_classes_of_ascii (by decide)).2.trans (by decide))
      (by decide) rest

/-- A separator behind something else than a run gives nothing. -/
theorem scans_separator {c : Char} (hc : isSeparator c = true) : Scans none [c] [] none := by
  intro rest
  exact scan_separator none hc rest

/-- **A field**: a space, a word, and a separator. -/
theorem scans_field (run : Option (List Char)) (space : Space) (w : PlainWord) {c : Char}
    (hc : isSeparator c = true) : Scans run (space.1 ++ (w.chars ++ [c])) [w.text] none := by
  have hword : Scans (some []) w.chars [] (some w.chars) := scans_word (some []) w
  have hend : Scans (some w.chars) [c] [w.text] none := by
    intro rest
    rw [List.singleton_append, scan_separator _ hc, Option.map_some, w.ofList_chars]
    rfl
  exact (scans_space run space).append (hword.append hend)

/-- A part of a text gives the same fields whatever run stands before it. -/
def Passes (text : List Char) (names : List String) : Prop :=
  ∀ run, ∃ run', Scans run text names run'

theorem Passes.nil : Passes [] [] :=
  fun run => ⟨run, .nil run⟩

theorem Passes.append (h : Passes s ns) (h' : Passes t ms) : Passes (s ++ t) (ns ++ ms) := by
  intro run
  obtain ⟨mid, hs⟩ := h run
  obtain ⟨last, ht⟩ := h' mid
  exact ⟨last, hs.append ht⟩

/-- Parts that pass one after the other. -/
theorem Passes.flatMap {α : Type} {text : α → List Char} {names : α → List String}
    (h : ∀ a, Passes (text a) (names a)) (l : List α) :
    Passes (l.flatMap text) (l.flatMap names) := by
  induction l with
  | nil => exact .nil
  | cons a l ih => exact (h a).append ih

theorem Passes.flatMap_nil {α : Type} {text : α → List Char} (h : ∀ a, Passes (text a) [])
    (l : List α) : Passes (l.flatMap text) [] := by
  have hnil : (l.flatMap fun _ => ([] : List String)) = [] :=
    List.flatMap_eq_nil_iff.mpr fun _ _ => rfl
  rw [← hnil]
  exact .flatMap h l

theorem Passes.flatMap_singleton {α : Type} {text : α → List Char} {name : α → String}
    (h : ∀ a, Passes (text a) [name a]) (l : List α) : Passes (l.flatMap text) (l.map name) := by
  rw [List.map_eq_flatMap]
  exact .flatMap h l

theorem passes_space (s : Space) : Passes s.1 [] :=
  fun run => ⟨_, scans_space run s⟩

theorem passes_blanks (b : Blanks) : Passes b.1 [] := by
  by_cases hb : b.1 = []
  · rw [hb]
    exact .nil
  · exact passes_space ⟨b.1, hb, b.2⟩

theorem passes_word (w : PlainWord) : Passes w.chars [] :=
  fun run => ⟨_, scans_word run w⟩

theorem passes_sign {c : Char} (hc : c = '.' ∨ c = '[' ∨ c = ']' ∨ c = '\x7b' ∨ c = '\x7d') :
    Passes [c] [] :=
  fun run => ⟨_, scans_sign run hc⟩

theorem passes_field (space : Space) (w : PlainWord) {c : Char} (hc : isSeparator c = true) :
    Passes (space.1 ++ (w.chars ++ [c])) [w.text] :=
  fun run => ⟨_, scans_field run space w hc⟩

/-- The fields of a text that passes. -/
theorem Passes.fields (h : Passes t ms) : SeparatedWord.fields t = ms := by
  obtain ⟨run, hscan⟩ := h none
  have htext := hscan []
  rw [List.append_nil] at htext
  rw [fields_eq_scan, htext, scan, List.append_nil]

end SeparatedWord

end SeriesSchema
