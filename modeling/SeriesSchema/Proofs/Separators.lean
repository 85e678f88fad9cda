import SeriesSchema.Extractor
import SeriesSchema.Proofs.ClosedTexts

/-!
# Separators

Blanks and comments stand for nothing but the end of what is before them.  A *gap* is a blank, a
block comment or a line comment with its line end; a separator is one gap or several in a row.
Behind a closed text a separator adds no token and takes none away (`tokenize_separator`), and so
it does not matter which one stands there.

The one thing to keep apart is a `/` at the end of the text in front: with a comment behind it, it
would open another comment.

A comment runs up to its end and no further.  For a line comment that is plain, since it holds no
line end.  For a block comment the scan remembers whether the character before was a `*`; the
induction is therefore on the content, together with a `*` that may stand before it
(`reads_blockComment`).
-/

namespace SeriesSchema

open Text

/-! ## 1. Gaps -/

/-- A piece of text that belongs to no token. -/
inductive Gap
  | blank (c : Char) (isBlank : isBlank c = true)
  /-- `/*`, the content, `*/`; the first `*/` behind the opening is the end -/
  | blockComment (content : List Char) (endless : ¬ ['*', '/'] <:+: content)
  /-- `//`, the content, and the end of the line -/
  | lineComment (content : List Char) (endless : '\n' ∉ content)

/-- The text of a gap. -/
def Gap.text : Gap → List Char
  | blank c _ => [c]
  | blockComment content _ => '/' :: '*' :: (content ++ ['*', '/'])
  | lineComment content _ => '/' :: '/' :: (content ++ ['\n'])

/-- One gap or more in a row. -/
structure Separator where
  gaps : List Gap
  gaps_ne_nil : gaps ≠ []

namespace Separator

/-- The text of a separator. -/
def text (s : Separator) : String :=
  String.ofList (s.gaps.flatMap Gap.text)

/-- Whether a separator may follow a text: behind a `/` it has to start with a blank. -/
def MayFollow (s : Separator) (a : String) : Prop :=
  a.toList.getLast? = some '/' → ∃ c ∈ s.text.toList.head?, isBlank c = true

end Separator

/-! ## 2. The reading of a gap -/

namespace Mode

/-- The content of a line comment leaves the comment open, and the end of the line ends it. -/
theorem reads_lineComment {content : List Char} (h : '\n' ∉ content) :
    lineComment.Reads (content ++ ['\n']) [] between := by
  induction content with
  | nil => exact .skip rfl (.nil between)
  | cons c content ih =>
    obtain ⟨hc, hcontent⟩ : '\n' ≠ c ∧ '\n' ∉ content := by simpa using h
    have hstep : lineComment.step c = (lineComment, []) := by simp [step, hc.symm]
    exact .skip hstep (ih hcontent)

/-- The content of a block comment leaves the comment open, and `*/` ends it.  A `*` before the
content is part of it: no `/` may follow it. -/
theorem reads_blockComment {content : List Char} {star : Bool}
    (h : ¬ ['*', '/'] <:+: (if star then '*' :: content else content)) :
    (blockComment star).Reads (content ++ ['*', '/']) [] between := by
  induction content generalizing star with
  | nil =>
    have hstar : (blockComment star).step '*' = (blockComment true, []) := by simp [step]
    exact .skip hstar (.skip rfl (.nil between))
  | cons c content ih =>
    have hopen : ¬ ((star && c == '/') = true) := by
      rw [Bool.and_eq_true, beq_iff_eq]
      rintro ⟨rfl, rfl⟩
      exact h ⟨[], content, rfl⟩
    have hcontent : ¬ ['*', '/'] <:+: c :: content := by
      cases star with
      | false => exact h
      | true => exact fun hin => h (hin.trans (List.infix_cons List.infix_rfl))
    have hrest : ¬ ['*', '/'] <:+: (if c == '*' then '*' :: content else content) := by
      split
      · rename_i hstar
        rwa [eq_of_beq hstar] at hcontent
      · exact fun hin => hcontent (List.infix_cons hin)
    have hstep : (blockComment star).step c = (blockComment (c == '*'), []) := by
      rw [step, if_neg hopen]
    exact .skip hstep (ih hrest)

/-- **A gap between tokens is not seen.** -/
theorem reads_gap (g : Gap) : between.Reads g.text [] between := by
  have hslash : between.step '/' = (slash, []) := by decide
  cases g with
  | blank c hc =>
    have hblank : between.step c = (between, []) := by simp [step, start, hc]
    exact .skip hblank (.nil between)
  | blockComment content endless =>
    have hcontent : (blockComment false).Reads (content ++ ['*', '/']) [] between :=
      reads_blockComment (by simpa using endless)
    exact .skip hslash (.skip rfl hcontent)
  | lineComment content endless =>
    exact .skip hslash (.skip rfl (reads_lineComment endless))

/-- **A separator between tokens is not seen.** -/
theorem reads_gaps (gaps : List Gap) : between.Reads (gaps.flatMap Gap.text) [] between := by
  induction gaps with
  | nil => exact .nil between
  | cons g gaps ih => exact (reads_gap g).append ih

end Mode

/-! ## 3. Separators behind closed texts -/

/-- A gap begins with a blank or with a `/`. -/
theorem Gap.head?_text (g : Gap) : ∃ c, g.text.head? = some c ∧ (isBlank c = true ∨ c = '/') := by
  cases g with
  | blank c hc => exact ⟨c, rfl, Or.inl hc⟩
  | blockComment content endless => exact ⟨'/', rfl, Or.inr rfl⟩
  | lineComment content endless => exact ⟨'/', rfl, Or.inr rfl⟩

namespace Separator

variable {s : Separator} {a : String}

theorem head?_text (s : Separator) :
    ∃ c, s.text.toList.head? = some c ∧ (isBlank c = true ∨ c = '/') := by
  obtain ⟨g, gaps, hgaps⟩ := List.exists_cons_of_ne_nil s.gaps_ne_nil
  obtain ⟨c, hhead, hc⟩ := g.head?_text
  refine ⟨c, ?_, hc⟩
  rw [text, String.toList_ofList, hgaps, List.flatMap_cons, List.head?_append, hhead]
  rfl

/-- A separator leaves the text that it may follow. -/
theorem leaves (ha : IsClosed a) (hs : s.MayFollow a) {c : Char}
    (hc : s.text.toList.head? = some c) : (Mode.between.after a.toList).Leaves c := by
  obtain ⟨d, hd, hkind⟩ := s.head?_text
  obtain rfl : c = d := Option.some.inj (hc.symm.trans hd)
  rcases hkind with hblank | rfl
  · exact Mode.leaves_of_isBlank ha hblank
  · -- a separator that begins with a comment stands behind no `/`
    have hend : a.toList.getLast? ≠ some '/' := by
      intro hlast
      obtain ⟨d, hd, hblank⟩ := hs hlast
      obtain rfl : '/' = d := Option.some.inj (hc.symm.trans hd)
      exact absurd hblank (by decide)
    exact Mode.leaves_of_isOutside ha (by decide)
      (fun hmode => absurd hmode (Mode.after_ne_slash hend)) fun _ => by decide

theorem reads_text (s : Separator) : Mode.between.Reads s.text.toList [] .between := by
  rw [text, String.toList_ofList]
  exact Mode.reads_gaps s.gaps

/-- Behind a closed text and a separator the reading stands between tokens. -/
theorem after_text (ha : IsClosed a) (hs : s.MayFollow a) :
    Mode.between.after (a ++ s.text).toList = .between := by
  have hread := s.reads_text
  obtain ⟨c, hhead, -⟩ := s.head?_text
  obtain ⟨cs, htext⟩ := List.head?_eq_some_iff.mp hhead
  have hleaves := leaves ha hs hhead
  rw [htext] at hread
  rw [String.toList_append, Mode.after_append, htext]
  exact (Mode.reads_of_leaves hleaves hread).after

/-- What is closed is closed behind a closed text and a separator, too. -/
theorem isClosed_text (ha : IsClosed a) (hs : s.MayFollow a) {b : String} (hb : IsClosed b) :
    IsClosed (a ++ s.text ++ b) := by
  unfold IsClosed
  rw [String.toList_append, Mode.after_append, after_text ha hs]
  exact hb

/-- Behind a closed text a separator is not seen. -/
theorem tokenize_text (ha : IsClosed a) (hs : s.MayFollow a) (b : String) :
    tokenize (a ++ s.text ++ b) = tokenize a ++ tokenize b := by
  have hleaves : ∀ c ∈ (s.text ++ b).toList.head?, (Mode.between.after a.toList).Leaves c := by
    intro c hc
    obtain ⟨d, hd, -⟩ := s.head?_text
    rw [String.toList_append, List.head?_append, hd, Option.some_or] at hc
    exact leaves ha hs (hd.trans hc)
  calc
    tokenize (a ++ s.text ++ b) = tokenize (a ++ (s.text ++ b)) := by rw [String.append_assoc]
    _ = tokenize a ++ tokenize (s.text ++ b) := tokenize_append hleaves
    _ = tokenize a ++ tokenize b := by rw [s.reads_text.tokenize_append b, List.nil_append]

end Separator

/-- The end of a line. -/
def lineEnd : Separator where
  gaps := [.blank '\n' (by decide)]
  gaps_ne_nil := List.cons_ne_nil _ _

theorem text_lineEnd : lineEnd.text = "\n" := by
  decide

/-- The end of a line may follow any text. -/
theorem mayFollow_lineEnd (a : String) : lineEnd.MayFollow a :=
  fun _ => ⟨'\n', by rw [text_lineEnd]; decide, by decide⟩

/-- What the declaration reader makes of a text depends on its tokens alone. -/
theorem extract_congr {source other : String} (h : tokenize source = tokenize other) :
    Extractor.declaration.typeName? source = Extractor.declaration.typeName? other ∧
      Extractor.declaration.fieldNames source = Extractor.declaration.fieldNames other ∧
      Extractor.declaration.extract? source = Extractor.declaration.extract? other := by
  have hread : Declaration.read? source = Declaration.read? other := by
    rw [Declaration.read?, Declaration.read?, h]
  refine ⟨?_, ?_, hread⟩
  · rw [Extractor.typeName?, Extractor.typeName?, h]
  · rw [Extractor.fieldNames, Extractor.fieldNames, hread]

/-- **Comments and blanks are not seen.**  A separator behind a closed text adds no token and takes
none away, whatever stands on both sides; so in place of one separator there may be any other, and
the same type and the same fields are read. -/
theorem tokenize_separator {a : String} (ha : IsClosed a) {s : Separator} (hs : s.MayFollow a)
    (b : String) :
    tokenize (a ++ s.text ++ b) = tokenize a ++ tokenize b ∧
    ∀ other : Separator, other.MayFollow a →
      Extractor.declaration.typeName? (a ++ other.text ++ b) =
          Extractor.declaration.typeName? (a ++ s.text ++ b) ∧
        Extractor.declaration.fieldNames (a ++ other.text ++ b) =
          Extractor.declaration.fieldNames (a ++ s.text ++ b) ∧
        Extractor.declaration.extract? (a ++ other.text ++ b) =
          Extractor.declaration.extract? (a ++ s.text ++ b) := by
  have htokens := Separator.tokenize_text ha hs b
  refine ⟨htokens, fun other hother => extract_congr ?_⟩
  rw [htokens, Separator.tokenize_text ha hother b]

namespace Division

/-- A text that ends in the sign for division. -/
def front : String :=
  "class T \x7b int a = 6 /"

/-- What may stand behind it. -/
def back : String :=
  " 2, b; \x7d"

/-- A line end, a block comment that holds stars and a quote, and a line comment that looks like the
end of another. -/
def gap : Separator where
  gaps := [.blank '\n' (by decide), .blockComment ['*', ' ', '"', '*'] (by decide),
    .lineComment ['*', '/', '\''] (by decide)]
  gaps_ne_nil := List.cons_ne_nil _ _

end Division

open Division in
theorem tokenize_separator_division :
    IsClosed front ∧ gap.MayFollow front ∧
    tokenize (front ++ gap.text ++ back) = tokenize front ++ tokenize back ∧
    ∀ other : Separator, other.MayFollow front →
      Extractor.declaration.typeName? (front ++ other.text ++ back) =
          Extractor.declaration.typeName? (front ++ gap.text ++ back) ∧
        Extractor.declaration.fieldNames (front ++ other.text ++ back) =
          Extractor.declaration.fieldNames (front ++ gap.text ++ back) ∧
        Extractor.declaration.extract? (front ++ other.text ++ back) =
          Extractor.declaration.extract? (front ++ gap.text ++ back) := by
  have hclosed : IsClosed front := by decide +kernel
  have hfollow : gap.MayFollow front := fun _ => ⟨'\n', by decide +kernel, by decide⟩
  exact ⟨hclosed, hfollow, tokenize_separator hclosed hfollow back⟩

end SeriesSchema
