import SeriesSchema.Text.Alphabetic
import SeriesSchema.Text.Number
import SeriesSchema.Text.Mark
import SeriesSchema.Text.Blank

/-!
# The characters of words

Two readings of "word" are in use, and they differ outside ASCII.

* An *identifier* character is a letter or a number of any kind, `_` or `$`.  This is what the
  token scan and the check of a package name go by.
* A *word* character is a letter, a mark, a decimal digit, a connector or a joiner.  This is what
  the search by pattern goes by.

So `²` and `$` belong only to identifiers, an accent that stands alone only to words.

Section 2 gives what the readers of text rely on: both classes leave out the blanks and every
ASCII character that is not a letter, a digit, `_` or (for identifiers) `$`.  No word can therefore
hold a bracket, a quote, a separator, a line end, a slash or a full stop.
-/

namespace SeriesSchema.Text

/-! ## 1. The two classes -/

/-- Whether a character is a letter or a number of any kind. -/
def isAlphanumeric (c : Char) : Bool :=
  isAlphabetic c || isDecimal c || isOtherNumber c

/-- Whether a character belongs to an identifier. -/
def isIdentifierChar (c : Char) : Bool :=
  isAlphanumeric c || c == '_' || c == '$'

/-- Whether a character may begin an identifier: a letter, `_` or `$`. -/
def isIdentifierStart (c : Char) : Bool :=
  isAlphabetic c || c == '_' || c == '$'

/-- What may begin an identifier may also go on with it. -/
theorem isIdentifierChar_of_isIdentifierStart {c : Char} (h : isIdentifierStart c = true) :
    isIdentifierChar c = true := by
  simp only [isIdentifierStart, Bool.or_eq_true] at h
  rcases h with (h | h) | h
  · simp [isIdentifierChar, isAlphanumeric, h]
  · simp [isIdentifierChar, h]
  · simp [isIdentifierChar, h]

/-- Whether a character belongs to a word of the search by pattern. -/
def isWordChar (c : Char) : Bool :=
  isAlphabetic c || isMark c || isDecimal c || isConnector c || isJoiner c

/-! ## 2. What the classes leave out -/

/-- No range of one table meets a range of the other. -/
def Ranges.disjoint (t u : Ranges) : Bool :=
  t.all fun r => u.all fun s => decide (r.2 < s.1) || decide (s.2 < r.1)

theorem Ranges.has_eq_false_of_disjoint {t u : Ranges} (h : t.disjoint u = true) {n : Nat}
    (hn : t.has n = true) : u.has n = false := by
  rw [Bool.eq_false_iff]
  intro hu
  obtain ⟨r, hr, hrn⟩ := exists_of_has hn
  obtain ⟨s, hs, hsn⟩ := exists_of_has hu
  have := List.all_eq_true.mp (List.all_eq_true.mp h r hr) s hs
  simp only [Bool.or_eq_true, decide_eq_true_eq] at this
  omega

set_option maxRecDepth 8000 in
/-- A blank is neither an identifier character nor a word character. -/
theorem not_word_of_isBlank {c : Char} (h : isBlank c = true) :
    isIdentifierChar c = false ∧ isWordChar c = false := by
  have alphabetic : isAlphabetic c = false :=
    Ranges.has_eq_false_of_disjoint (t := blankRanges) (by decide) h
  have decimal : isDecimal c = false :=
    Ranges.has_eq_false_of_disjoint (t := blankRanges) (by decide) h
  have other : isOtherNumber c = false :=
    Ranges.has_eq_false_of_disjoint (t := blankRanges) (by decide) h
  have mark : isMark c = false :=
    Ranges.has_eq_false_of_disjoint (t := blankRanges) (by decide) h
  have connector : isConnector c = false :=
    Ranges.has_eq_false_of_disjoint (t := blankRanges) (by decide) h
  have joiner : isJoiner c = false := by
    rw [Bool.eq_false_iff]
    intro hj
    simp only [isJoiner, Bool.or_eq_true, beq_iff_eq] at hj
    obtain ⟨r, hr, hle, hge⟩ := Ranges.exists_of_has h
    revert r
    rcases hj with hj | hj <;> rw [hj] <;> decide
  have underscore : (c == '_') = false := by
    rw [beq_eq_false_iff_ne]
    rintro rfl
    exact absurd h (by decide)
  have dollar : (c == '$') = false := by
    rw [beq_eq_false_iff_ne]
    rintro rfl
    exact absurd h (by decide)
  simp [isIdentifierChar, isAlphanumeric, isWordChar, alphabetic, decimal, other, mark, connector,
    joiner, underscore, dollar]

set_option maxRecDepth 8000 in
private theorem ascii_classes : ∀ n < 128,
    isIdentifierChar (Char.ofNat n) =
      ((Char.ofNat n).isAlphanum || Char.ofNat n == '_' || Char.ofNat n == '$') ∧
    isWordChar (Char.ofNat n) = ((Char.ofNat n).isAlphanum || Char.ofNat n == '_') := by
  decide

/-- In ASCII, identifiers hold letters, digits, `_` and `$`, and words the same without `$`. -/
theorem word_classes_of_ascii {c : Char} (h : c.toNat < 128) :
    isIdentifierChar c = (c.isAlphanum || c == '_' || c == '$') ∧
    isWordChar c = (c.isAlphanum || c == '_') := by
  have := ascii_classes c.toNat h
  rwa [Char.ofNat_toNat] at this

end SeriesSchema.Text
