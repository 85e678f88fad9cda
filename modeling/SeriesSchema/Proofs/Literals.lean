import SeriesSchema.Proofs.Separators

/-!
# Literals

A literal is one token, whatever stands between its quotes.  Its content is a list of *pieces*: a
backslash with the character behind it, or a plain character.  Three forms share the quote.

* A string or a character ends with the first plain delimiter.
* A text block ends with the first three plain quotes in a row.  So its content may hold one or two
  of them in a row, but not three, and none at its end.  The scan counts the quotes that stand right
  before; the induction is on the content, with so many quotes put before it (`reads_block`).
* The empty string is two quotes, which a third one would make the opening of a text block.  That is
  why no quote may stand behind it, and none before a literal.

In front a literal needs a closed text.  Then it adds its one token (`tokenize_literal`), and so it
does not matter which literal stands there.
-/

namespace SeriesSchema

open Text

/-! ## 1. Contents -/

/-- A unit of the content of a literal. -/
inductive Piece
  | plain (c : Char) (isPlain : c ≠ '\\')
  /-- a backslash, and the character that it takes its meaning from -/
  | pair (c : Char)
deriving DecidableEq

namespace Piece

/-- The text of a piece. -/
def text : Piece → List Char
  | plain c _ => [c]
  | pair c => ['\\', c]

/-- The quote that stands for itself. -/
def quote : Piece :=
  plain '"' (by decide)

/-- The apostrophe that stands for itself. -/
def apostrophe : Piece :=
  plain '\'' (by decide)

end Piece

/-- A complete literal. -/
inductive Literal
  | string (content : List Piece) (endless : .quote ∉ content)
  | character (content : List Piece) (endless : .apostrophe ∉ content)
  | block (content : List Piece) (endless : ¬ [.quote, .quote, .quote] <:+: content)
      (noLast : content.getLast? ≠ some .quote)

namespace Literal

/-- The characters of a literal. -/
def chars : Literal → List Char
  | string content _ => '"' :: (content.flatMap Piece.text ++ ['"'])
  | character content _ => '\'' :: (content.flatMap Piece.text ++ ['\''])
  | block content _ _ => '"' :: '"' :: '"' :: (content.flatMap Piece.text ++ ['"', '"', '"'])

/-- The text of a literal. -/
def text (l : Literal) : String :=
  String.ofList l.chars

/-- Whether a text may stand behind a literal: no quote behind the empty string. -/
def MayPrecede (l : Literal) (b : String) : Prop :=
  l.text = "\"\"" → b.toList.head? ≠ some '"'

end Literal

/-! ## 2. The reading of a literal -/

namespace Mode

variable {m : Mode} {s : List Char} {ts : List Token}

/-- A piece that is not the delimiter leaves a literal open. -/
theorem reads_piece {d : Char} (hd : d ≠ '\\') {p : Piece} (hp : p ≠ .plain d hd)
    (h : (quoted d false).Reads s ts m) : (quoted d false).Reads (p.text ++ s) ts m := by
  cases p with
  | plain c hc =>
    have hne : c ≠ d := by
      rintro rfl
      exact hp rfl
    have hstep : (quoted d false).step c = (quoted d false, []) := by
      simp [step, inside, hne, hc]
    exact .skip hstep h
  | pair c =>
    have hstep : (quoted d false).step '\\' = (quoted d true, []) := by
      simp [step, inside, hd.symm]
    exact .skip hstep (.skip rfl h)

/-- **A literal ends with its first plain delimiter.** -/
theorem reads_quoted {d : Char} (hd : d ≠ '\\') {content : List Piece}
    (h : .plain d hd ∉ content) :
    (quoted d false).Reads (content.flatMap Piece.text ++ [d]) [.literal] between := by
  induction content with
  | nil =>
    have hstep : (quoted d false).step d = (between, [.literal]) := by simp [step, inside]
    exact .cons hstep (.nil between)
  | cons p content ih =>
    obtain ⟨hp, hcontent⟩ : Piece.plain d hd ≠ p ∧ Piece.plain d hd ∉ content := by simpa using h
    rw [List.flatMap_cons, List.append_assoc]
    exact reads_piece hd hp.symm (ih hcontent)

/-- Behind the opening quote of a string a character that is no quote belongs to the string. -/
theorem reads_quote {c : Char} (hc : c ≠ '"') (h : (quoted '"' false).Reads (c :: s) ts m) :
    quote.Reads (c :: s) ts m := by
  have hstep : quote.step c = (quoted '"' false).step c := by simp [step, hc]
  refine ⟨?_, ?_⟩
  · rw [emits_cons, hstep, ← emits_cons, h.emits]
  · rw [after_cons, hstep, ← after_cons, h.after]

/-- **A text block ends with its first three plain quotes in a row**, of which `run` stand before
the content. -/
theorem reads_block {content : List Piece} {run : Nat}
    (hthree : ¬ [.quote, .quote, .quote] <:+: List.replicate run Piece.quote ++ content)
    (hlast : (List.replicate run Piece.quote ++ content).getLast? ≠ some .quote) :
    (block false run).Reads (content.flatMap Piece.text ++ ['"', '"', '"']) [.literal] between := by
  induction content generalizing run with
  | nil =>
    obtain rfl : run = 0 := by
      cases run with
      | zero => rfl
      | succ run =>
        rw [List.append_nil, List.getLast?_replicate] at hlast
        exact absurd rfl hlast
    exact .skip rfl (.skip rfl (.cons rfl (.nil between)))
  | cons p content ih =>
    -- a piece that is no quote ends the run, and what is asked of the rest is asked of the whole
    have hreset : (block false 0).Reads (content.flatMap Piece.text ++ ['"', '"', '"'])
        [.literal] between := by
      have hsuffix : content <:+ List.replicate run Piece.quote ++ p :: content :=
        (List.suffix_cons p content).trans (List.suffix_append _ _)
      refine ih (fun hin => hthree (hin.trans hsuffix.isInfix)) fun hend => hlast ?_
      rw [List.getLast?_append, List.getLast?_cons]
      have hend : content.getLast? = some .quote := hend
      simp [hend]
    rw [List.flatMap_cons, List.append_assoc]
    cases p with
    | plain c hc =>
      by_cases hquote : c = '"'
      · subst hquote
        have hmore : List.replicate run Piece.quote ++ .quote :: content =
            List.replicate (run + 1) Piece.quote ++ content := by
          rw [List.replicate_succ', List.append_assoc, List.singleton_append]
        have hrun : run ≠ 2 := by
          rintro rfl
          exact hthree ⟨[], content, rfl⟩
        have hstep : (block false run).step '"' = (block false (run + 1), []) := by
          simp [step, hrun]
        exact .skip hstep (ih (hmore ▸ hthree) (hmore ▸ hlast))
      · have hstep : (block false run).step c = (block false 0, []) := by
          simp [step, hquote, hc]
        exact .skip hstep hreset
    | pair c =>
      have hstep : (block false run).step '\\' = (block true 0, []) := by simp [step]
      exact .skip hstep (.skip rfl hreset)

end Mode

/-! ## 3. Literals behind closed texts -/

namespace Literal

variable {l : Literal} {a b : String}

@[simp] theorem toList_text (l : Literal) : l.text.toList = l.chars :=
  String.toList_ofList

/-- The empty string ends in a mode of its own, every other literal between tokens. -/
theorem reads (l : Literal) :
    Mode.between.Reads l.chars [.literal] .between ∨
      l.text = "\"\"" ∧ Mode.between.Reads l.chars [] .twoQuotes := by
  have hquote : Mode.between.step '"' = (.quote, []) := by decide
  have hquotes : Mode.quote.step '"' = (.twoQuotes, []) := rfl
  have happly : Mode.between.step '\'' = (.quoted '\'' false, []) := by decide
  cases l with
  | string content endless =>
    cases content with
    | nil => exact Or.inr ⟨rfl, .skip hquote (.skip hquotes (.nil .twoQuotes))⟩
    | cons p content =>
      left
      have hcontent := Mode.reads_quoted (by decide) endless
      rw [List.flatMap_cons, List.append_assoc] at hcontent
      rw [chars, List.flatMap_cons, List.append_assoc]
      refine .skip hquote ?_
      cases p with
      | plain c hc =>
        have hne : c ≠ '"' := by
          rintro rfl
          exact endless List.mem_cons_self
        exact Mode.reads_quote hne hcontent
      | pair c => exact Mode.reads_quote (by decide) hcontent
  | character content endless =>
    exact Or.inl (.skip happly (Mode.reads_quoted (by decide) endless))
  | block content endless noLast =>
    have hcontent : (Mode.block false 0).Reads (content.flatMap Piece.text ++ ['"', '"', '"'])
        [.literal] .between := Mode.reads_block endless noLast
    exact Or.inl (.skip hquote (.skip hquotes (.skip rfl hcontent)))

/-- The tokens of a text that begins with a literal. -/
theorem tokenize_append (hb : l.MayPrecede b) :
    tokenize (l.text ++ b) = .literal :: tokenize b := by
  rcases l.reads with hread | ⟨hempty, hread⟩
  · rw [← toList_text] at hread
    exact hread.tokenize_append b
  · -- two quotes are complete, since the text behind does not begin with a third
    rw [← toList_text] at hread
    have htext : tokenize l.text = [.literal] := hread.tokenize
    have hleaves : ∀ c ∈ b.toList.head?, (Mode.between.after l.text.toList).Leaves c := by
      intro c hc
      have hne : c ≠ '"' := by
        rintro rfl
        exact hb hempty hc
      rw [hread.after]
      simp [Mode.Leaves, Mode.step, hne]
    rw [SeriesSchema.tokenize_append hleaves, htext, List.singleton_append]

/-- A literal leaves a closed text that does not end in a quote. -/
theorem leaves (ha : IsClosed a) (hend : a.toList.getLast? ≠ some '"') {c : Char}
    (hc : (l.text ++ b).toList.head? = some c) : (Mode.between.after a.toList).Leaves c := by
  have hquotes := Mode.after_ne_twoQuotes hend
  have hkind : c = '"' ∨ c = '\'' := by
    rw [String.toList_append, toList_text] at hc
    cases l with
    | string content endless => exact Or.inl (Option.some.inj hc).symm
    | character content endless => exact Or.inr (Option.some.inj hc).symm
    | block content endless noLast => exact Or.inl (Option.some.inj hc).symm
  rcases hkind with rfl | rfl
  · exact Mode.leaves_of_isOutside ha (by decide) (fun _ => by decide) fun h => absurd h hquotes
  · exact Mode.leaves_of_isOutside ha (by decide) (fun _ => by decide) fun _ => by decide

/-- Behind a closed text a literal is one token. -/
theorem tokenize_text (ha : IsClosed a) (hend : a.toList.getLast? ≠ some '"')
    (hb : l.MayPrecede b) :
    tokenize (a ++ l.text ++ b) = tokenize a ++ [.literal] ++ tokenize b := by
  calc
    tokenize (a ++ l.text ++ b) = tokenize (a ++ (l.text ++ b)) := by rw [String.append_assoc]
    _ = tokenize a ++ tokenize (l.text ++ b) :=
      SeriesSchema.tokenize_append fun c hc => leaves ha hend hc
    _ = tokenize a ++ [.literal] ++ tokenize b := by
      rw [tokenize_append hb, List.append_assoc, List.singleton_append]

end Literal

/-- **What stands between quotes is not seen.**  A literal behind a closed text is one token,
whatever stands on both sides; so in place of one literal there may be any other, and the same type
and the same fields are read. -/
theorem tokenize_literal {a b : String} (ha : IsClosed a) (hend : a.toList.getLast? ≠ some '"')
    {l : Literal} (hb : l.MayPrecede b) :
    tokenize (a ++ l.text ++ b) = tokenize a ++ [.literal] ++ tokenize b ∧
    ∀ other : Literal, other.MayPrecede b →
      Extractor.declaration.typeName? (a ++ other.text ++ b) =
          Extractor.declaration.typeName? (a ++ l.text ++ b) ∧
        Extractor.declaration.fieldNames (a ++ other.text ++ b) =
          Extractor.declaration.fieldNames (a ++ l.text ++ b) ∧
        Extractor.declaration.extract? (a ++ other.text ++ b) =
          Extractor.declaration.extract? (a ++ l.text ++ b) := by
  have htokens := Literal.tokenize_text ha hend hb
  refine ⟨htokens, fun other hother => extract_congr ?_⟩
  rw [htokens, Literal.tokenize_text ha hend hother]

namespace TextBlock

/-- A text in which a value is about to come. -/
def front : String :=
  "class T \x7b String a ="

/-- What may stand behind the value. -/
def back : String :=
  ", b; \x7d"

/-- A text block with quotes before and behind an escaped one, the opening of a comment, and the
end of a statement. -/
def literal : Literal :=
  .block [.quote, .quote, .pair '"', .quote, .plain '/' (by decide), .plain '*' (by decide),
    .plain ';' (by decide)] (by decide) (by decide)

end TextBlock

open TextBlock in
theorem tokenize_literal_textBlock :
    IsClosed front ∧ front.toList.getLast? ≠ some '"' ∧ literal.MayPrecede back ∧
    tokenize (front ++ literal.text ++ back) = tokenize front ++ [.literal] ++ tokenize back ∧
    ∀ other : Literal, other.MayPrecede back →
      Extractor.declaration.typeName? (front ++ other.text ++ back) =
          Extractor.declaration.typeName? (front ++ literal.text ++ back) ∧
        Extractor.declaration.fieldNames (front ++ other.text ++ back) =
          Extractor.declaration.fieldNames (front ++ literal.text ++ back) ∧
        Extractor.declaration.extract? (front ++ other.text ++ back) =
          Extractor.declaration.extract? (front ++ literal.text ++ back) := by
  have hclosed : IsClosed front := by decide +kernel
  have hend : front.toList.getLast? ≠ some '"' := by decide +kernel
  have hback : literal.MayPrecede back := fun _ => by decide +kernel
  exact ⟨hclosed, hend, hback, tokenize_literal hclosed hend hback⟩

end SeriesSchema
