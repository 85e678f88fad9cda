import SeriesSchema.Token

/-!
# Closed texts

A text is *closed* if its reading ends outside every comment and every literal.  Such a reading may
still hold something back: a word that could go on, a `/` that could open a comment, or two quotes
that could open a text block.  What comes next decides, and a character that does not belong to
what is held back *leaves* it: it is then read as at the beginning of a text
(`Mode.reads_of_leaves`).  So whatever begins with such a character has its own tokens, after those
of the closed text (`tokenize_append`).

1. readings of parts of a text;
2. characters that leave a mode;
3. what the last character of a text shows;
4. closed texts.
-/

namespace SeriesSchema

open Text

/-! ## 1. Readings -/

/-- From the mode `m` a part of a text completes some tokens, and ends in the mode `m'`. -/
structure Mode.Reads (m : Mode) (text : List Char) (tokens : List Token) (m' : Mode) : Prop where
  emits : m.emits text = tokens
  after : m.after text = m'

namespace Mode

variable {m m' m'' : Mode} {s t : List Char} {ts us : List Token}

protected theorem Reads.nil (m : Mode) : m.Reads [] [] m :=
  ⟨rfl, rfl⟩

/-- One character, and what follows it. -/
protected theorem Reads.cons {c : Char} (hstep : m.step c = (m', ts)) (h : m'.Reads s us m'') :
    m.Reads (c :: s) (ts ++ us) m'' := by
  refine ⟨?_, ?_⟩
  · rw [emits_cons, hstep, h.emits]
  · rw [after_cons, hstep, h.after]

/-- A character that completes no token, and what follows it. -/
protected theorem Reads.skip {c : Char} (hstep : m.step c = (m', [])) (h : m'.Reads s us m'') :
    m.Reads (c :: s) us m'' :=
  Reads.cons hstep h

/-- A reading goes on where it ended. -/
protected theorem Reads.append (h : m.Reads s ts m') (h' : m'.Reads t us m'') :
    m.Reads (s ++ t) (ts ++ us) m'' := by
  refine ⟨?_, ?_⟩
  · rw [emits_append, h.emits, h.after, h'.emits]
  · rw [after_append, h.after, h'.after]

/-- The tokens of a text that is read from its beginning. -/
theorem Reads.tokenize {text : String} (h : between.Reads text.toList ts m) :
    tokenize text = ts ++ m.finish := by
  rw [tokenize_eq, h.emits, h.after]

/-- A text in front that ends between tokens keeps out of the reading of the text behind. -/
theorem Reads.tokenize_append {a : String} (h : between.Reads a.toList ts between) (b : String) :
    SeriesSchema.tokenize (a ++ b) = ts ++ SeriesSchema.tokenize b := by
  have hb : between.Reads b.toList (between.emits b.toList) (between.after b.toList) := ⟨rfl, rfl⟩
  have hboth := h.append hb
  rw [← String.toList_append] at hboth
  rw [hboth.tokenize, tokenize_eq b, List.append_assoc]

/-! ## 2. Leaving a mode -/

/-- Whether a character does not belong to what a mode holds back. -/
def Leaves (m : Mode) (c : Char) : Prop :=
  m.step c = m.leave c

/-- **A character that leaves a mode is read as between tokens**, once the token in hand is
complete. -/
theorem reads_of_leaves {c : Char} (hc : m.Leaves c) (h : between.Reads (c :: s) ts m') :
    m.Reads (c :: s) (m.finish ++ ts) m' := by
  have hstep : m.step c = ((between.step c).1, m.finish ++ (between.step c).2) := hc
  refine ⟨?_, ?_⟩
  · rw [emits_cons, hstep, List.append_assoc, ← emits_cons, h.emits]
  · rw [after_cons, hstep, ← after_cons, h.after]

/-- What is held back outside comments and literals is left by every character that is no part of
an identifier, opens no comment and is no quote. -/
theorem leaves_of_isOutside {c : Char} (hm : m.isOutside = true)
    (hword : isIdentifierChar c = false) (hslash : m = slash → c ≠ '/' ∧ c ≠ '*')
    (hquote : m = twoQuotes → c ≠ '"') : m.Leaves c := by
  cases m with
  | between => rfl
  | word text => simp [Leaves, step, hword]
  | slash =>
    obtain ⟨hline, hblock⟩ := hslash rfl
    simp [Leaves, step, hline, hblock]
  | twoQuotes => simp [Leaves, step, hquote rfl]
  | _ => cases hm

/-- Blanks leave every mode outside comments and literals. -/
theorem leaves_of_isBlank {c : Char} (hm : m.isOutside = true) (hc : isBlank c = true) :
    m.Leaves c := by
  have hne : ∀ d, isBlank d = false → c ≠ d := by
    rintro d hd rfl
    rw [hc] at hd
    cases hd
  exact leaves_of_isOutside hm (not_word_of_isBlank hc).1
    (fun _ => ⟨hne '/' (by decide), hne '*' (by decide)⟩) fun _ => hne '"' (by decide)

/-! ## 3. The last character -/

/-- Between tokens only a `/` may open a comment, and no character is a second quote. -/
theorem start_cases (c : Char) :
    ((start c).1 = slash → c = '/') ∧ (start c).1 ≠ twoQuotes := by
  unfold start
  split
  · simp
  split
  · simp_all
  split
  · simp
  split
  · simp
  split
  · simp
  · simp

/-- The mode after a character tells that it was a `/`, or a quote. -/
theorem step_cases (m : Mode) (c : Char) :
    ((m.step c).1 = slash → c = '/') ∧ ((m.step c).1 = twoQuotes → c = '"') := by
  obtain ⟨hslash, hquotes⟩ := start_cases c
  have hstart : ((start c).1 = slash → c = '/') ∧ ((start c).1 = twoQuotes → c = '"') :=
    ⟨hslash, fun h => absurd h hquotes⟩
  rw [step.eq_def]
  split
  · exact hstart
  · split
    · simp
    · exact hstart
  · split
    · simp
    · split
      · simp
      · exact hstart
  · split <;> simp
  · split <;> simp
  · split
    · simp_all
    · unfold inside
      split <;> simp
  · split
    · simp
    · exact hstart
  · simp
  · unfold inside
    split <;> simp
  · simp
  · split
    · split <;> simp
    · simp

/-- If only one character leads to a mode, a text that was read up to there ends in it. -/
theorem getLast?_of_after {c : Char} (hstep : ∀ (m : Mode) d, (m.step d).1 = m' → d = c)
    (hm : m ≠ m') (h : m.after s = m') : s.getLast? = some c := by
  rcases List.eq_nil_or_concat s with rfl | ⟨front, d, rfl⟩
  · exact absurd h hm
  · rw [List.concat_eq_append, after_append, after_cons, after_nil] at h
    rw [List.concat_eq_append, List.getLast?_concat, hstep _ d h]

/-- A text that does not end in `/` holds no comment back. -/
theorem after_ne_slash (h : s.getLast? ≠ some '/') : between.after s ≠ slash :=
  fun hafter =>
    h (getLast?_of_after (m := between) (fun m d => (m.step_cases d).1) (by decide) hafter)

/-- A text that does not end in a quote holds no text block back. -/
theorem after_ne_twoQuotes (h : s.getLast? ≠ some '"') : between.after s ≠ twoQuotes :=
  fun hafter =>
    h (getLast?_of_after (m := between) (fun m d => (m.step_cases d).2) (by decide) hafter)

end Mode

/-! ## 4. Closed texts -/

/-- A text is closed if its reading ends outside every comment and every literal. -/
def IsClosed (text : String) : Prop :=
  (Mode.between.after text.toList).isOutside = true

instance (text : String) : Decidable (IsClosed text) :=
  inferInstanceAs (Decidable (_ = true))

/-- **A text that leaves the one in front of it keeps its tokens**, and so does the one in
front. -/
theorem tokenize_append {a b : String}
    (h : ∀ c ∈ b.toList.head?, (Mode.between.after a.toList).Leaves c) :
    tokenize (a ++ b) = tokenize a ++ tokenize b := by
  cases hb : b.toList with
  | nil =>
    obtain rfl : b = "" := String.toList_eq_nil_iff.mp hb
    simp [tokenize_eq "", Mode.finish]
  | cons c cs =>
    rw [hb] at h
    have hread : Mode.between.Reads (c :: cs) (Mode.between.emits (c :: cs))
        (Mode.between.after (c :: cs)) := ⟨rfl, rfl⟩
    have hboth := Mode.Reads.append (t := c :: cs) ⟨rfl, rfl⟩ (Mode.reads_of_leaves (h c rfl) hread)
    rw [← hb, ← String.toList_append] at hboth
    rw [hboth.tokenize, tokenize_eq a, tokenize_eq b]
    simp only [List.append_assoc]

end SeriesSchema
