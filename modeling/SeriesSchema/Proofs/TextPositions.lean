import SeriesSchema.Proofs.PlainTexts
import SeriesSchema.Proofs.TokenPositions

/-!
# Positions in a text

The scan of a text (`tokenize`) takes a character at a time and keeps a mode: what has been read of
a word, a comment or a literal.  The scan here (`readTokens`) keeps a position instead.  It takes a
whole word, comment or literal at a time, each with a loop of its own, and looks at the characters
next to the one in hand.  Where an escape, a comment or a literal is cut off by the end of the text,
the position goes past it.

The two are joined by the tokens that a mode gives to a text (`Mode.tokens`).  A loop keeps what the
mode of its comment or literal gives to what is left, and is done where this is what the mode
between tokens gives (`skip_keeps`).  So every round of the scan leads forward, with the tokens of
what it leads over (`scanStep_eq_ok`), and the whole scan gives the tokens of the text
(`readTokens_eq_ok`).

A text has no more tokens than characters (`length_tokenize_le`).  Rounds that are enough for the
characters are thus enough for the readers of tokens too (`readDefinition_eq_ok`).

1. all tokens of a text;
2. the loops of the scan;
3. comments and literals;
4. where a scan stands between tokens;
5. the scan;
6. definitions.
-/

namespace SeriesSchema

open Text

/-! ## 1. All tokens of a text -/

namespace Mode

/-- The tokens of a text that is read from the mode `m` on, the one in hand at its end included. -/
def tokens (m : Mode) (text : List Char) : List Token :=
  m.emits text ++ (m.after text).finish

variable {m m' : Mode} {c : Char} {s t : List Char} {ts : List Token}

theorem tokens_nil (m : Mode) : m.tokens [] = m.finish := rfl

theorem tokens_cons (m : Mode) (c : Char) (cs : List Char) :
    m.tokens (c :: cs) = (m.step c).2 ++ (m.step c).1.tokens cs :=
  List.append_assoc _ _ _

theorem Reads.tokens_append (h : m.Reads s ts m') (t : List Char) :
    m.tokens (s ++ t) = ts ++ m'.tokens t := by
  rw [tokens, tokens, emits_append, after_append, h.emits, h.after, List.append_assoc]

theorem tokens_of_leaves (h : m.Leaves c) (cs : List Char) :
    m.tokens (c :: cs) = m.finish ++ between.tokens (c :: cs) := by
  rw [tokens_cons, tokens_cons, h, leave, List.append_assoc]
  rfl

theorem length_start_le (c : Char) :
    (start c).2.length + (start c).1.finish.length ≤ 1 := by
  unfold start
  repeat' split
  all_goals simp [finish]

/-- A character gives one token at most, be it at once or later. -/
theorem length_step_le (m : Mode) (c : Char) :
    (m.step c).2.length + (m.step c).1.finish.length ≤ m.finish.length + 1 := by
  have hstart := length_start_le c
  have hleave : (m.leave c).2.length + (m.leave c).1.finish.length ≤ m.finish.length + 1 := by
    show (m.finish ++ (start c).2).length + (start c).1.finish.length ≤ _
    rw [List.length_append]
    omega
  have hinside : ∀ d, (inside d c).2.length + (inside d c).1.finish.length ≤ 2 := by
    intro d
    unfold inside
    split <;> simp [finish]
  rw [step.eq_def]
  split
  · exact hstart
  · split
    · simp [finish]
    · exact hleave
  · split
    · simp [finish]
    · split
      · simp [finish]
      · exact hleave
  · split <;> simp [finish]
  · split <;> simp [finish]
  · split
    · simp [finish]
    · exact hinside _
  · split
    · simp [finish]
    · exact hleave
  · simp [finish]
  · exact hinside _
  · simp [finish]
  · split
    · split <;> simp [finish]
    · simp [finish]

theorem length_tokens_le (m : Mode) (cs : List Char) :
    (m.tokens cs).length ≤ m.finish.length + cs.length := by
  induction cs generalizing m with
  | nil => exact Nat.le_refl _
  | cons c cs ih =>
    have hstep := length_step_le m c
    have hrest := ih (m.step c).1
    rw [tokens_cons, List.length_append, List.length_cons]
    omega

end Mode

/-- A text has no more tokens than characters. -/
theorem length_tokenize_le (source : String) :
    (tokenize source).length ≤ source.toList.length := by
  have hlen := Mode.length_tokens_le .between source.toList
  rw [tokenize_eq]
  simpa [Mode.tokens, Mode.finish] using hlen

namespace Positions

open Mode

variable {cs : List Char} {i rounds : Nat}

/-! ## 2. The loops of the scan -/

/-- Goes forward from the position `i`, at each character by as many as `stride` says, until it
says nothing or the text ends. -/
def skip (rounds : Nat) (cs : List Char) (stride : Nat → Char → Checked (Option Nat)) (i : Nat) :
    Checked Nat :=
  walk rounds cs
    (fun i _ c => do
      match ← stride i c with
      | some n => return .goesOn (i + n, ())
      | none => return .done i)
    (fun i _ => i) i ()

/-- A comment to the end of the line goes on up to the line end. -/
def lineStride (_ : Nat) (c : Char) : Checked (Option Nat) :=
  return if c = '\n' then none else some 1

/-- A comment goes on up to `*/`. -/
def commentStride (cs : List Char) (i : Nat) (c : Char) : Checked (Option Nat) :=
  return if c = '*' ∧ cs[i + 1]? = some '/' then none else some 1

/-- A text block goes on up to three quotes; a backslash takes the character behind it along. -/
def blockStride (cs : List Char) (i : Nat) (c : Char) : Checked (Option Nat) := do
  let behind ← slice cs i cs.length
  return if ['"', '"', '"'] <+: behind then none else some (if c = '\\' then 2 else 1)

/-- A literal goes on up to its delimiter; a backslash takes the character behind it along. -/
def quotedStride (delimiter : Char) (_ : Nat) (c : Char) : Checked (Option Nat) :=
  return if c = delimiter then none else some (if c = '\\' then 2 else 1)

/-- A word goes on as long as there are identifier characters. -/
def wordStride (_ : Nat) (c : Char) : Checked (Option Nat) :=
  return if isIdentifierChar c then some 1 else none

/-- Going forward from `i` ends at `j`, which is no position that `stride` would leave. -/
structure SkipsTo (rounds : Nat) (cs : List Char) (stride : Nat → Char → Checked (Option Nat))
    (i j : Nat) : Prop where
  skip : skip rounds cs stride i = .ok j
  le : i ≤ j
  stops : ∀ c rest, cs.drop j = c :: rest → stride j c = .ok none

/-- **Going forward ends**, with what every stride keeps. -/
theorem skip_ends {stride : Nat → Char → Checked (Option Nat)} (inv : Nat → Prop)
    (hstride : ∀ j c rest, cs.drop j = c :: rest → inv j →
      stride j c = .ok none ∨ ∃ n, 0 < n ∧ stride j c = .ok (some n) ∧ inv (j + n))
    (hinv : inv i) (hrounds : cs.length < rounds) :
    ∃ j, SkipsTo rounds cs stride i j ∧ inv j := by
  have hends : ∃ j, skip rounds cs stride i = .ok j ∧ i ≤ j ∧ inv j ∧
      ∀ c rest, cs.drop j = c :: rest → stride j c = .ok none := by
    refine walk_ends (fun j _ => i ≤ j ∧ inv j) _ ?_ ?_ ⟨Nat.le_refl i, hinv⟩ hrounds
    · rintro j _ hdrop ⟨hij, hj⟩
      refine ⟨hij, hj, fun c rest hcons => ?_⟩
      rw [hdrop] at hcons
      cases hcons
    · rintro j _ c rest hdrop ⟨hij, hj⟩
      rcases hstride j c rest hdrop hj with hnone | ⟨n, hn, hsome, hnext⟩
      · refine Or.inl ⟨j, by rw [hnone]; rfl, hij, hj, fun c' rest' hcons => ?_⟩
        rw [hdrop] at hcons
        obtain ⟨rfl, rfl⟩ := List.cons.inj hcons
        exact hnone
      · exact Or.inr ⟨j + n, (), by rw [hsome]; rfl, by omega, by omega, hnext⟩
  obtain ⟨j, hskip, hij, hj, hstops⟩ := hends
  exact ⟨j, ⟨hskip, hij, hstops⟩, hj⟩

/-- **A loop over a comment or a literal ends with it.**  Every stride keeps the tokens that the
mode `m` gives to what is left.  Where there is none, these are `front` and the tokens of what is
left `behind` characters further. -/
theorem skip_keeps {stride : Nat → Char → Checked (Option Nat)} {m : Mode} (front : List Token)
    (behind : Nat) (hfinish : m.finish = front)
    (hstride : ∀ j c rest, cs.drop j = c :: rest →
      (stride j c = .ok none ∧
        m.tokens (c :: rest) = front ++ between.tokens (cs.drop (j + behind))) ∨
      ∃ n, 0 < n ∧ stride j c = .ok (some n) ∧ m.tokens (cs.drop (j + n)) = m.tokens (c :: rest))
    (i : Nat) (hrounds : cs.length < rounds) :
    ∃ j, SkipsTo rounds cs stride i j ∧
      m.tokens (cs.drop i) = front ++ between.tokens (cs.drop (j + behind)) := by
  obtain ⟨j, hskips, hkept⟩ := skip_ends
    (fun j => m.tokens (cs.drop j) = m.tokens (cs.drop i))
    (fun j c rest hdrop hkept => (hstride j c rest hdrop).imp And.left
      fun ⟨n, hn, hsome, hnext⟩ => ⟨n, hn, hsome, by rw [hnext, ← hkept, hdrop]⟩)
    rfl hrounds
  refine ⟨j, hskips, ?_⟩
  cases hdrop : cs.drop j with
  | nil =>
    have hbehind : cs.drop (j + behind) = [] := by rw [← List.drop_drop, hdrop, List.drop_nil]
    rw [← hkept, hdrop, hbehind, tokens_nil, hfinish, tokens_nil, finish, List.append_nil]
  | cons c rest =>
    rcases hstride j c rest hdrop with ⟨-, hends⟩ | ⟨n, -, hsome, -⟩
    · rw [← hkept, hdrop, hends]
    · rw [hskips.stops c rest hdrop] at hsome
      cases hsome

/-! ## 3. Comments and literals -/

end Positions

namespace Mode

variable {c d : Char} {s : List Char}

/-- An escaped character of a literal is passed over, if there is one. -/
theorem tokens_quoted_escaped (d : Char) (s : List Char) :
    (quoted d true).tokens s = (quoted d false).tokens (s.drop 1) := by
  cases s with
  | nil => rfl
  | cons c s => rfl

theorem tokens_block_escaped (run : Nat) (s : List Char) :
    (block true run).tokens s = (block false 0).tokens (s.drop 1) := by
  cases s with
  | nil => rfl
  | cons c s => rfl

/-- Where no `/` follows, a `*` before makes no difference to a comment. -/
theorem tokens_blockComment_star (h : s.head? ≠ some '/') :
    (blockComment true).tokens s = (blockComment false).tokens s := by
  cases s with
  | nil => rfl
  | cons c s =>
    have hc : c ≠ '/' := fun heq => h (by rw [heq]; rfl)
    simp [tokens_cons, step, hc]

/-- Where two quotes do not follow, a quote before makes no difference to a text block. -/
theorem tokens_block_run (h : ¬ ['"', '"'] <+: s) :
    (block false 1).tokens s = (block false 0).tokens s := by
  cases s with
  | nil => rfl
  | cons c s =>
    by_cases hc : c = '"'
    · subst hc
      cases s with
      | nil => rfl
      | cons d s =>
        have hd : d ≠ '"' := by
          rintro rfl
          exact h ⟨s, rfl⟩
        simp [tokens_cons, step, hd]
    · simp [tokens_cons, step, hc]

/-- Behind a quote that does not open a text block, a string is read. -/
theorem tokens_quote (h : ¬ ['"', '"'] <+: s) :
    quote.tokens s = (quoted '"' false).tokens s := by
  cases s with
  | nil => rfl
  | cons c s =>
    by_cases hc : c = '"'
    · subst hc
      cases s with
      | nil => rfl
      | cons d s =>
        have hd : d ≠ '"' := by
          rintro rfl
          exact h ⟨s, rfl⟩
        have hleaves : twoQuotes.Leaves d := by simp [Leaves, step, hd]
        have hends : (quoted '"' false).tokens ('"' :: d :: s) =
            .literal :: between.tokens (d :: s) := by simp [tokens_cons _ '"', step, inside]
        rw [tokens_cons, hends]
        exact tokens_of_leaves hleaves s
    · simp [tokens_cons, step, hc]

end Mode

namespace Positions

open Mode

variable {cs : List Char} {i rounds : Nat}

theorem skip_lineComment (i : Nat) (hrounds : cs.length < rounds) :
    ∃ j, SkipsTo rounds cs lineStride i j ∧
      lineComment.tokens (cs.drop i) = between.tokens (cs.drop j) := by
  refine skip_keeps [] 0 rfl (fun j c rest hdrop => ?_) i hrounds
  by_cases hc : c = '\n'
  · left
    have hblank : between.step '\n' = (between, []) := by decide
    subst hc
    refine ⟨rfl, ?_⟩
    rw [Nat.add_zero, hdrop, tokens_cons, tokens_cons, hblank]
    rfl
  · refine Or.inr ⟨1, Nat.one_pos, by rw [lineStride, if_neg hc]; rfl, ?_⟩
    rw [(drop_eq_cons_iff.mp hdrop).2, tokens_cons]
    simp [step, hc]

theorem skip_comment (i : Nat) (hrounds : cs.length < rounds) :
    ∃ j, SkipsTo rounds cs (commentStride cs) i j ∧
      (blockComment false).tokens (cs.drop i) = between.tokens (cs.drop (j + 2)) := by
  refine skip_keeps [] 2 rfl (fun j c rest hdrop => ?_) i hrounds
  have hrest := (drop_eq_cons_iff.mp hdrop).2
  have hhead : cs[j + 1]? = rest.head? := by rw [← List.head?_drop, hrest]
  unfold commentStride
  rw [hhead]
  by_cases hc : c = '*'
  · subst hc
    by_cases hslash : rest.head? = some '/'
    · left
      obtain ⟨more, rfl⟩ := List.head?_eq_some_iff.mp hslash
      have hbehind : cs.drop (j + 2) = more := drop_behind hdrop 1
      refine ⟨rfl, ?_⟩
      rw [hbehind]
      rfl
    · refine Or.inr ⟨1, Nat.one_pos, by rw [if_neg fun h => hslash h.2]; rfl, ?_⟩
      rw [hrest, tokens_cons]
      exact (tokens_blockComment_star hslash).symm
  · refine Or.inr ⟨1, Nat.one_pos, by rw [if_neg fun h => hc h.1]; rfl, ?_⟩
    rw [hrest, tokens_cons]
    simp [step, beq_false_of_ne hc]

theorem skip_quoted (d : Char) (i : Nat) (hrounds : cs.length < rounds) :
    ∃ j, SkipsTo rounds cs (quotedStride d) i j ∧
      (quoted d false).tokens (cs.drop i) = .literal :: between.tokens (cs.drop (j + 1)) := by
  refine skip_keeps [.literal] 1 rfl (fun j c rest hdrop => ?_) i hrounds
  have hrest := (drop_eq_cons_iff.mp hdrop).2
  unfold quotedStride
  by_cases hc : c = d
  · left
    refine ⟨by rw [if_pos hc]; rfl, ?_⟩
    rw [hrest, tokens_cons]
    simp [step, inside, hc]
  · right
    rw [if_neg hc]
    by_cases hback : c = '\\'
    · subst hback
      refine ⟨2, Nat.two_pos, rfl, ?_⟩
      have htwo : cs.drop (j + 2) = rest.drop 1 := drop_behind hdrop 1
      rw [htwo, ← tokens_quoted_escaped, tokens_cons]
      simp [step, inside, hc]
    · refine ⟨1, Nat.one_pos, by rw [if_neg hback]; rfl, ?_⟩
      rw [hrest, tokens_cons]
      simp [step, inside, hc, hback]

theorem skip_block (i : Nat) (hrounds : cs.length < rounds) :
    ∃ j, SkipsTo rounds cs (blockStride cs) i j ∧
      (block false 0).tokens (cs.drop i) = .literal :: between.tokens (cs.drop (j + 3)) := by
  refine skip_keeps [.literal] 3 rfl (fun j c rest hdrop => ?_) i hrounds
  have hrest := (drop_eq_cons_iff.mp hdrop).2
  have hslice : slice cs j cs.length = .ok (c :: rest) := by
    refine slice_eq_ok_iff.mpr ⟨⟨Nat.le_of_lt (lt_length_of_drop hdrop), Nat.le_refl _⟩, ?_⟩
    rw [← List.length_drop, List.take_length, hdrop]
  have hvalue : blockStride cs j c = .ok (if ['"', '"', '"'] <+: c :: rest then none
      else some (if c = '\\' then 2 else 1)) := by
    rw [blockStride, hslice]
    rfl
  rw [hvalue]
  by_cases hthree : ['"', '"', '"'] <+: c :: rest
  · left
    obtain ⟨more, hmore⟩ := hthree
    obtain ⟨rfl, rfl⟩ := List.cons.inj hmore
    have hbehind : cs.drop (j + 3) = more := drop_behind hdrop 2
    refine ⟨by rw [if_pos ⟨more, rfl⟩], ?_⟩
    rw [hbehind]
    rfl
  · right
    rw [if_neg hthree]
    by_cases hback : c = '\\'
    · subst hback
      refine ⟨2, Nat.two_pos, rfl, ?_⟩
      have htwo : cs.drop (j + 2) = rest.drop 1 := drop_behind hdrop 1
      rw [htwo, ← tokens_block_escaped, tokens_cons]
      rfl
    · refine ⟨1, Nat.one_pos, by rw [if_neg hback], ?_⟩
      rw [hrest, tokens_cons]
      by_cases hquote : c = '"'
      · subst hquote
        have htwo : ¬ ['"', '"'] <+: rest := by
          rintro ⟨more, rfl⟩
          exact hthree ⟨more, rfl⟩
        exact (tokens_block_run htwo).symm
      · simp [step, hquote, hback]

/-- The run of identifier characters that begins at `i` ends where the loop over a word does. -/
theorem skip_word (i : Nat) (hrounds : cs.length < rounds) :
    ∃ j run, SkipsTo rounds cs wordStride i j ∧ j = i + run.length ∧
      cs.drop i = run ++ cs.drop j ∧ (∀ c ∈ run, isIdentifierChar c = true) ∧
      ∀ c ∈ (cs.drop j).head?, isIdentifierChar c = false := by
  have hstride : ∀ j c rest, cs.drop j = c :: rest →
      (∃ run, j = i + run.length ∧ cs.drop i = run ++ cs.drop j ∧
        ∀ c ∈ run, isIdentifierChar c = true) →
      wordStride j c = .ok none ∨ ∃ n, 0 < n ∧ wordStride j c = .ok (some n) ∧
        ∃ run, j + n = i + run.length ∧ cs.drop i = run ++ cs.drop (j + n) ∧
          ∀ c ∈ run, isIdentifierChar c = true := by
    rintro j c rest hdrop ⟨run, hj, hrun, hall⟩
    rw [wordStride]
    cases hc : isIdentifierChar c with
    | false => exact Or.inl rfl
    | true =>
      refine Or.inr ⟨1, Nat.one_pos, rfl, run ++ [c], ?_, ?_, ?_⟩
      · rw [hj, List.length_append]
        rfl
      · rw [hrun, hdrop, (drop_eq_cons_iff.mp hdrop).2]
        simp
      · intro d hd
        rcases List.mem_append.mp hd with hd | hd
        · exact hall d hd
        · rw [List.mem_singleton.mp hd, hc]
  obtain ⟨j, hskips, run, hj, hrun, hall⟩ :=
    skip_ends _ hstride ⟨[], rfl, rfl, by simp⟩ hrounds
  refine ⟨j, run, hskips, hj, hrun, hall, fun c hc => ?_⟩
  obtain ⟨rest, hdrop⟩ := List.head?_eq_some_iff.mp hc
  have hstop := hskips.stops c rest hdrop
  cases hchar : isIdentifierChar c with
  | false => rfl
  | true =>
    rw [wordStride, hchar] at hstop
    cases hstop

end Positions

/-! ## 4. Where a scan stands between tokens -/

namespace Mode

variable {c : Char} {s : List Char}

theorem tokens_blank (hc : isBlank c = true) : between.tokens (c :: s) = between.tokens s := by
  simp [tokens_cons, step, start, hc]

theorem step_between_slash : between.step '/' = (slash, []) := by
  decide

theorem step_between_quote : between.step '"' = (quote, []) := by
  decide

theorem tokens_twoSlashes (s : List Char) :
    between.tokens ('/' :: '/' :: s) = lineComment.tokens ('/' :: '/' :: s) := by
  rw [tokens_cons, step_between_slash]
  rfl

theorem tokens_slashStar (s : List Char) :
    between.tokens ('/' :: '*' :: s) = (blockComment false).tokens s := by
  rw [tokens_cons, step_between_slash]
  rfl

theorem tokens_threeQuotes (s : List Char) :
    between.tokens ('"' :: '"' :: '"' :: s) = (block false 0).tokens s := by
  rw [tokens_cons, step_between_quote]
  rfl

theorem tokens_quotation (hc : c = '"' ∨ c = '\'') (h : c = '"' → ¬ ['"', '"'] <+: s) :
    between.tokens (c :: s) = (quoted c false).tokens s := by
  rcases hc with rfl | rfl
  · rw [tokens_cons, step_between_quote]
    exact tokens_quote (h rfl)
  · have happly : between.step '\'' = (quoted '\'' false, []) := by decide
    rw [tokens_cons, happly]
    rfl

/-- A run of identifier characters is a word, if none follows. -/
theorem tokens_word {run : List Char} (hne : run ≠ [])
    (hall : ∀ c ∈ run, isIdentifierChar c = true)
    (hend : ∀ c ∈ s.head?, isIdentifierChar c = false) :
    between.tokens (run ++ s) = .word (String.ofList run) :: between.tokens s := by
  obtain ⟨c, more, rfl⟩ := List.exists_cons_of_ne_nil hne
  have hstart : between.step c = (word (String.singleton c), []) :=
    start_of_isIdentifierChar (hall c List.mem_cons_self)
  have hmore := reads_more (String.singleton c) fun d hd => hall d (List.mem_cons_of_mem _ hd)
  have htext : String.singleton c ++ String.ofList more = String.ofList (c :: more) := by
    rw [← String.toList_inj]
    simp
  rw [htext] at hmore
  rw [(Reads.skip hstart hmore).tokens_append, List.nil_append]
  cases s with
  | nil => rfl
  | cons d s =>
    have hleaves : (word (String.ofList (c :: more))).Leaves d :=
      leaves_of_isOutside rfl (hend d rfl) (by simp) (by simp)
    exact tokens_of_leaves hleaves s

/-- Every other character is a token by itself. -/
theorem tokens_sign (hblank : isBlank c = false) (hword : isIdentifierChar c = false)
    (hslash : c = '/' → s.head? ≠ some '/' ∧ s.head? ≠ some '*') (hquote : ¬ (c = '"' ∨ c = '\'')) :
    between.tokens (c :: s) = .sign c :: between.tokens s := by
  by_cases hc : c = '/'
  · subst hc
    rw [tokens_cons, step_between_slash]
    cases s with
    | nil => rfl
    | cons d s =>
      obtain ⟨hline, hblock⟩ := hslash rfl
      have hleaves : slash.Leaves d := by
        have hd : d ≠ '/' ∧ d ≠ '*' := by simpa using And.intro hline hblock
        simp [Leaves, step, hd.1, hd.2]
      exact tokens_of_leaves hleaves s
  · have hne : c ≠ '"' ∧ c ≠ '\'' := not_or.mp hquote
    simp [tokens_cons, step, start, hblank, hword, hc, hne.1, hne.2]

end Mode

namespace Positions

open Mode

variable {cs rest : List Char} {c : Char} {i rounds : Nat}

/-! ## 5. The scan -/

/-- What the character at a position does, once the tokens before it have been read. -/
def scanStep (rounds : Nat) (cs : List Char) (i : Nat) (tokens : List Token) (c : Char) :
    Checked (Round (Nat × List Token) (List Token)) := do
  if isBlank c then return .goesOn (i + 1, tokens)
  else if c = '/' ∧ cs[i + 1]? = some '/' then
    return .goesOn (← skip rounds cs lineStride i, tokens)
  else if c = '/' ∧ cs[i + 1]? = some '*' then
    return .goesOn ((← skip rounds cs (commentStride cs) (i + 2)) + 2, tokens)
  else if c = '"' ∧ cs[i + 1]? = some '"' ∧ cs[i + 2]? = some '"' then
    return .goesOn ((← skip rounds cs (blockStride cs) (i + 3)) + 3, tokens ++ [.literal])
  else if c = '"' ∨ c = '\'' then
    return .goesOn ((← skip rounds cs (quotedStride c) (i + 1)) + 1, tokens ++ [.literal])
  else if isIdentifierChar c then
    let j ← skip rounds cs wordStride i
    let run ← slice cs i j
    return .goesOn (j, tokens ++ [.word (String.ofList run)])
  else return .goesOn (i + 1, tokens ++ [.sign c])

/-- The tokens of a source text. -/
def readTokens (rounds : Nat) (source : String) : Checked (List Token) :=
  walk rounds source.toList (scanStep rounds source.toList) (fun _ tokens => tokens) 0 []

/-- **Every character leads forward**, with the tokens of what it leads over. -/
theorem scanStep_eq_ok (hdrop : cs.drop i = c :: rest) (hrounds : cs.length < rounds)
    (tokens : List Token) :
    ∃ j new, scanStep rounds cs i tokens c = .ok (.goesOn (j, tokens ++ new)) ∧ i < j ∧
      between.tokens (c :: rest) = new ++ between.tokens (cs.drop j) := by
  obtain ⟨hitem, hrest⟩ := drop_eq_cons_iff.mp hdrop
  have hi := lt_length_of_drop hdrop
  unfold scanStep
  split
  · rename_i hblank
    refine ⟨i + 1, [], by rw [List.append_nil]; rfl, Nat.lt_succ_self i, ?_⟩
    rw [tokens_blank hblank, hrest]
    rfl
  rename_i hblank
  split
  · -- the loop over the comment begins with its first slash, so that it leads forward
    rename_i hslashes
    obtain ⟨rfl, hnext⟩ := hslashes
    obtain ⟨j, hskips, hkept⟩ := skip_lineComment i hrounds
    have hne : i ≠ j := by
      rintro rfl
      cases hskips.stops _ _ hdrop
    have hij := hskips.le
    refine ⟨j, [], by rw [hskips.skip, List.append_nil]; rfl, by omega, ?_⟩
    have hmore := drop_eq_cons_iff.mpr ⟨hnext, rfl⟩
    rw [← hrest, hmore, tokens_twoSlashes, ← hmore, hrest, ← hdrop, hkept]
    rfl
  rename_i hslashes
  split
  · rename_i hstar
    obtain ⟨rfl, hnext⟩ := hstar
    obtain ⟨j, hskips, hkept⟩ := skip_comment (i + 2) hrounds
    have hij := hskips.le
    refine ⟨j + 2, [], by rw [hskips.skip, List.append_nil]; rfl, by omega, ?_⟩
    rw [← hrest, drop_eq_cons_iff.mpr ⟨hnext, rfl⟩, tokens_slashStar, hkept]
    rfl
  rename_i hstar
  split
  · rename_i hthree
    obtain ⟨rfl, hsecond, hthird⟩ := hthree
    obtain ⟨j, hskips, hkept⟩ := skip_block (i + 3) hrounds
    have hij := hskips.le
    refine ⟨j + 3, [.literal], by rw [hskips.skip]; rfl, by omega, ?_⟩
    rw [← hrest, drop_eq_cons_iff.mpr ⟨hsecond, drop_eq_cons_iff.mpr ⟨hthird, rfl⟩⟩,
      tokens_threeQuotes, hkept]
    rfl
  rename_i hthree
  split
  · rename_i hquote
    have hnot : c = '"' → ¬ ['"', '"'] <+: rest := by
      rintro rfl ⟨more, hmore⟩
      rw [← hmore] at hrest
      obtain ⟨hsecond, hbehind⟩ := drop_eq_cons_iff.mp hrest
      exact hthree ⟨rfl, hsecond, (drop_eq_cons_iff.mp hbehind).1⟩
    obtain ⟨j, hskips, hkept⟩ := skip_quoted c (i + 1) hrounds
    have hij := hskips.le
    refine ⟨j + 1, [.literal], by rw [hskips.skip]; rfl, by omega, ?_⟩
    rw [tokens_quotation hquote hnot, ← hrest, hkept]
    rfl
  rename_i hquote
  split
  · rename_i hword
    obtain ⟨j, run, hskips, hj, hrun, hall, hend⟩ := skip_word i hrounds
    have hne : run ≠ [] := by
      rintro rfl
      obtain rfl : j = i := hj
      rw [hdrop] at hend
      rw [hend c rfl] at hword
      cases hword
    have hpos := List.length_pos_iff.mpr hne
    have hlen := congrArg List.length hrun
    rw [List.length_drop, List.length_append] at hlen
    have hslice : slice cs i j = .ok run := by
      refine slice_eq_ok_iff.mpr ⟨⟨by omega, by omega⟩, ?_⟩
      rw [hrun, hj, Nat.add_sub_cancel_left, List.take_left]
    refine ⟨j, [.word (String.ofList run)], ?_, by omega, ?_⟩
    · simp only [hskips.skip, hslice, bind, Except.bind]
      rfl
    · rw [← hdrop, hrun, tokens_word hne hall hend]
      rfl
  · rename_i hword
    refine ⟨i + 1, [.sign c], rfl, Nat.lt_succ_self i, ?_⟩
    rw [hrest]
    refine tokens_sign (by simpa using hblank) (by simpa using hword) ?_ hquote
    rintro rfl
    rw [← hrest, List.head?_drop]
    exact ⟨fun h => hslashes ⟨rfl, h⟩, fun h => hstar ⟨rfl, h⟩⟩

/-- **The tokens are read within the text.** -/
theorem readTokens_eq_ok {source : String} (hrounds : source.toList.length < rounds) :
    readTokens rounds source = .ok (tokenize source) := by
  rw [tokenize_eq]
  refine walk_eq_ok (fun _ _ => True)
    (fun i tokens => tokens ++ between.tokens (source.toList.drop i)) ?_ ?_ trivial hrounds
  · intro i tokens hdrop _
    rw [hdrop, tokens_nil, finish, List.append_nil]
  · intro i tokens c rest hdrop _
    obtain ⟨j, new, hstep, hij, hkept⟩ := scanStep_eq_ok hdrop hrounds tokens
    exact Or.inr ⟨j, tokens ++ new, hstep, hij, trivial, by rw [hdrop, hkept, List.append_assoc]⟩

/-! ## 6. Definitions -/

/-- The definition of a source text, if it declares a type. -/
def readDefinition (rounds : Nat) (source : String) : Checked (Option Definition) := do
  let ts ← readTokens rounds source
  match ← firstOpening rounds ts with
  | none => return none
  | some o => return some ⟨o.name, ← readFields rounds ts o⟩

/-- **The definition is read within the text.** -/
theorem readDefinition_eq_ok {source : String} (hrounds : source.toList.length < rounds) :
    readDefinition rounds source = .ok (Declaration.read? source) := by
  have htokens : (tokenize source).length < rounds :=
    Nat.lt_of_le_of_lt (length_tokenize_le source) hrounds
  obtain ⟨o, hopening, hfirst⟩ := firstOpening_eq_ok htokens
  rw [readDefinition, readTokens_eq_ok hrounds, Declaration.read?, ← hfirst]
  cases o with
  | none =>
    simp only [bind, Except.bind, hopening]
    rfl
  | some o =>
    simp only [bind, Except.bind, hopening, readFields_eq_ok o htokens]
    rfl

/-- **Reading by positions stays in range and ends.**

* A group ends behind its bracket and within the tokens, and so does the slice that it holds.
* A nested group ends right behind its closer, and holds exactly what stands between.
* An annotation ends behind its sign and within the tokens.
* The constants, the members, the declarators and the fields are read without a read outside the
  tokens, and each loop ends within as many rounds as there are tokens, and one more.
* So are the tokens and the definition of a source text, whatever the text.

What is read is in each case what the readers read that keep no position. -/
theorem reads_inRange :
    (∀ {ts : List Token} {i : Nat} {t : Token}, ts[i]? = some t → t.isOpener = true →
      (i < groupEnd ts i ∧ groupEnd ts i ≤ ts.length) ∧
      (i + 1 ≤ innerEnd ts i ∧ innerEnd ts i ≤ ts.length) ∧
      group ts i = .ok ((splitGroup (ts.drop (i + 1))).1, groupEnd ts i) ∧
      ts.drop (groupEnd ts i) = groupRest (ts.drop (i + 1))) ∧
    (∀ (front : List Token) {opener closer : Token} {inner : List Token},
      opener.isOpener = true → Nested inner → closer.isCloser = true → ∀ rest : List Token,
      groupEnd (front ++ opener :: (inner ++ closer :: rest)) front.length =
          front.length + 1 + inner.length + 1 ∧
        group (front ++ opener :: (inner ++ closer :: rest)) front.length =
          .ok (inner, front.length + 1 + inner.length + 1)) ∧
    (∀ {ts : List Token} {i rounds : Nat}, ts[i]? = some (.sign '@') → ts.length < rounds →
      ∃ j, annotationEnd rounds ts i = .ok j ∧ i < j ∧ j ≤ ts.length ∧
        ts.drop j = annotationRest (ts.drop (i + 1))) ∧
    (∀ {ts : List Token} {rounds : Nat}, ts.length < rounds →
      readConstants rounds ts = .ok (constantNames ts) ∧
      readMembers rounds ts = .ok (memberFields ts) ∧
      readDeclarators rounds ts = .ok (declaratorNames ts) ∧
      ∀ o, readFields rounds ts o = .ok (o.declaration ts).fields) ∧
    (∀ {source : String} {rounds : Nat}, source.toList.length < rounds →
      readTokens rounds source = .ok (tokenize source) ∧
      readDefinition rounds source = .ok (Declaration.read? source)) := by
  refine ⟨?_, ?_, ?_, ?_, ?_⟩
  · intro ts i t ht hopen
    have hdrop := drop_eq_cons_iff.mpr ⟨ht, rfl⟩
    exact ⟨groupEnd_inRange hdrop hopen, innerEnd_inRange hdrop hopen, group_eq_ok hdrop hopen,
      drop_groupEnd hdrop hopen⟩
  · intro front opener closer inner hopen hinner hclose rest
    exact group_of_nested front hopen hinner hclose rest
  · intro ts i rounds hat hrounds
    have hi : i < ts.length := lt_length_of_drop (drop_eq_cons_iff.mpr ⟨hat, rfl⟩)
    exact annotationEnd_eq_ok hi hrounds
  · intro ts rounds hrounds
    exact ⟨readConstants_eq_ok hrounds, readMembers_eq_ok hrounds, readDeclarators_eq_ok hrounds,
      fun o => readFields_eq_ok o hrounds⟩
  · intro source rounds hrounds
    exact ⟨readTokens_eq_ok hrounds, readDefinition_eq_ok hrounds⟩

namespace UnclosedBody

/-! A class whose body nothing closes, with a closer of another kind in it, a bracket that a
parenthesis closes, and at its end a string that takes the scan past the text. -/

def source : String :=
  "class A \x7b int a = \x7b 1 ]; @B.C(x) String[ b; ) c = \"\\"

def front : List Token :=
  [.word "class", .word "A", .sign '\x7b', .word "int", .word "a", .sign '=', .sign '\x7b',
    .word "1", .sign ']', .sign ';', .sign '@', .word "B", .sign '.', .word "C"]

def behind : List Token :=
  [.word "String", .sign '[', .word "b", .sign ';', .sign ')', .word "c", .sign '=', .literal]

def whole : List Token :=
  front ++ .sign '(' :: ([.word "x"] ++ .sign ')' :: behind)

end UnclosedBody

open UnclosedBody in
theorem reads_inRange_unclosed :
    tokenize source = whole ∧
    whole[2]? = some (.sign '\x7b') ∧
    (2 < groupEnd whole 2 ∧ groupEnd whole 2 ≤ whole.length) ∧
    (3 ≤ innerEnd whole 2 ∧ innerEnd whole 2 ≤ whole.length) ∧
    whole[10]? = some (.sign '@') ∧
    (∃ j, annotationEnd 32 whole 10 = .ok j ∧ 10 < j ∧ j ≤ whole.length) ∧
    whole[14]? = some (.sign '(') ∧
    groupEnd whole 14 = 17 ∧ group whole 14 = .ok ([.word "x"], 17) ∧
    readMembers 32 (whole.drop 3) = .ok ["a"] ∧
    readTokens 64 source = .ok whole ∧
    readDefinition 64 source = .ok (some ⟨"A", ["a"]⟩) := by
  have hwhole : tokenize source = whole := by decide +kernel
  have hfields : memberFields (whole.drop 3) = ["a"] := by decide +kernel
  have hdefinition : Declaration.read? source = some ⟨"A", ["a"]⟩ := by decide +kernel
  have hinner : Nested [.word "x"] := .token rfl rfl .nil
  obtain ⟨hgroup, hnested, hannotation, hlists, htexts⟩ := reads_inRange
  obtain ⟨hend, hslice, -, -⟩ := hgroup (show whole[2]? = some (.sign '\x7b') from rfl) rfl
  obtain ⟨j, hj, hlt, hle, -⟩ := hannotation (show whole[10]? = some (.sign '@') from rfl)
    (show whole.length < 32 by decide)
  obtain ⟨-, hmembers, -, -⟩ := hlists (show (whole.drop 3).length < 32 by decide)
  obtain ⟨hread, hdefined⟩ := htexts (show source.toList.length < 64 by decide +kernel)
  obtain ⟨hclosed, hparts⟩ :=
    hnested front (show (Token.sign '(').isOpener = true from rfl) hinner
      (show (Token.sign ')').isCloser = true from rfl) behind
  rw [hfields] at hmembers
  rw [hwhole] at hread
  rw [hdefinition] at hdefined
  exact ⟨hwhole, rfl, hend, hslice, rfl, ⟨j, hj, hlt, hle⟩, rfl, hclosed, hparts, hmembers, hread,
    hdefined⟩

end Positions

end SeriesSchema
