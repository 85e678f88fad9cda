import Mathlib.Data.List.Induction
import SeriesSchema.Proofs.ExtractedNames

/-!
# Where names stand

The names of a definition are words of its source, each taken once at most and in order.  Here it is
shown where in the text these words stand: each at a place of its own, behind the one before it, and
outside every comment and every literal (`exists_placed`).

The scan keeps no places.  They are found by an induction on the text from its end, since what one
more character does depends on the mode before it: it lengthens the word in hand, completes it, or
begins a new one (`Mode.step_words`).  The invariant (`Places`) has the places of the words that are
complete, and of the one in hand that it stands behind them.

1. places;
2. what a character does to words;
3. the places of all words of a text;
4. the places of names.
-/

namespace SeriesSchema

open Text

/-! ## 1. Places -/

/-- A word, and the text before it. -/
structure Place where
  before : List Char
  word : String

/-- The text up to the end of a word. -/
def Place.upTo (p : Place) : List Char :=
  p.before ++ p.word.toList

/-- A word stands at its place in `source`, outside comments and literals and as a whole. -/
structure Place.IsIn (p : Place) (source : List Char) : Prop where
  /-- the reading of the text before the word ends outside comments and literals -/
  outside : (Mode.between.after p.before).isOutside = true
  /-- there the word begins -/
  begins : Mode.between.after p.upTo = .word p.word
  /-- and it ends where the place says -/
  ends : ∃ rest, source = p.upTo ++ rest ∧ ∀ c ∈ rest.head?, isIdentifierChar c = false

/-- Words stand at their places, each behind the one before it. -/
structure Placed (source : List Char) (places : List Place) : Prop where
  isIn : ∀ p ∈ places, p.IsIn source
  ordered : places.Pairwise fun p q => p.upTo <+: q.before

/-- Some of the words stand at their places, too. -/
theorem Placed.sublist {source : List Char} {places fewer : List Place}
    (h : Placed source places) (hfewer : fewer.Sublist places) : Placed source fewer where
  isIn := fun p hp => h.isIn p (hfewer.subset hp)
  ordered := h.ordered.sublist hfewer

/-! ## 2. What a character does to words -/

namespace Mode

theorem start_words (c : Char) :
    words (start c).2 = [] ∧
      ∀ text, (start c).1 = .word text → isIdentifierChar c = true ∧ text = String.singleton c := by
  unfold start
  split
  · simp
  split
  · simp
  split
  · simp
  split
  · simp
  split
  · rename_i hc
    refine ⟨rfl, ?_⟩
    intro text htext
    exact ⟨hc, by simpa using htext.symm⟩
  · refine ⟨rfl, ?_⟩
    intro text htext
    cases htext

/-- Within a comment or a literal no word is completed and none begins. -/
theorem step_words_of_not_outside {m : Mode} (h : m.isOutside = false) (c : Char) :
    words (m.step c).2 = [] ∧ ∀ text, (m.step c).1 ≠ .word text := by
  have hinside (delimiter : Char) : words (inside delimiter c).2 = [] ∧
      ∀ text, (inside delimiter c).1 ≠ .word text := by
    unfold inside
    split
    · exact ⟨rfl, by simp⟩
    · exact ⟨rfl, by simp⟩
  unfold step
  split
  · cases h
  · cases h
  · cases h
  · split <;> exact ⟨rfl, by simp⟩
  · split <;> exact ⟨rfl, by simp⟩
  · split
    · exact ⟨rfl, by simp⟩
    · exact hinside '"'
  · cases h
  · exact ⟨rfl, by simp⟩
  · exact hinside _
  · exact ⟨rfl, by simp⟩
  · split
    · split <;> exact ⟨rfl, by simp⟩
    · exact ⟨rfl, by simp⟩

/-- **What a character does to words**: it lengthens the word in hand, or it completes that word and
begins no other, or there is no word in hand.  Then it may begin one, but only outside comments and
literals. -/
theorem step_words (m : Mode) (c : Char) :
    (∃ text, m = .word text ∧ m.step c = (.word (text.push c), [])) ∨
    (∃ text, m = .word text ∧ isIdentifierChar c = false ∧ words (m.step c).2 = [text] ∧
      ∀ next, (m.step c).1 ≠ .word next) ∨
    ((∀ text, m ≠ .word text) ∧ words (m.step c).2 = [] ∧
      ∀ next, (m.step c).1 = .word next → m.isOutside = true ∧ next = String.singleton c) := by
  obtain ⟨hnone, hbegins⟩ := start_words c
  cases hm : m.isOutside with
  | false =>
    obtain ⟨hwords, hnever⟩ := step_words_of_not_outside hm c
    refine Or.inr (Or.inr ⟨?_, hwords, fun next hnext => absurd hnext (hnever next)⟩)
    rintro text rfl
    cases hm
  | true =>
    cases m with
    | word text =>
      cases hc : isIdentifierChar c with
      | true => exact Or.inl ⟨text, rfl, by simp [step, hc]⟩
      | false =>
        have hstep : (Mode.word text).step c = (Mode.word text).leave c := by simp [step, hc]
        refine Or.inr (Or.inl ⟨text, rfl, rfl, ?_, ?_⟩)
        · rw [hstep, leave, words_append, hnone]
          rfl
        · intro next hnext
          rw [hstep] at hnext
          rw [(hbegins next hnext).1] at hc
          cases hc
    | between =>
      exact Or.inr (Or.inr ⟨by simp, hnone, fun next h => ⟨rfl, (hbegins next h).2⟩⟩)
    | slash =>
      refine Or.inr (Or.inr ⟨by simp, ?_⟩)
      rw [step]
      split
      · simp
      split
      · simp
      · exact ⟨hnone, fun next h => ⟨rfl, (hbegins next h).2⟩⟩
    | twoQuotes =>
      refine Or.inr (Or.inr ⟨by simp, ?_⟩)
      rw [step]
      split
      · simp
      · exact ⟨hnone, fun next h => ⟨rfl, (hbegins next h).2⟩⟩
    | _ => cases hm

end Mode

/-! ## 3. The places of words -/

/-- A text ends in a word that may go on, and that stands behind the words at `places`. -/
structure Place.IsInHand (p : Place) (text : List Char) (places : List Place) : Prop where
  upTo_eq : p.upTo = text
  outside : (Mode.between.after p.before).isOutside = true
  after_eq : Mode.between.after text = .word p.word
  behind : ∀ q ∈ places, q.upTo <+: p.before

/-- The places of the words of a text: of those that are complete, whatever follows the text, and of
the one in hand. -/
structure Places (text : List Char) (places : List Place) : Prop where
  complete : places.map Place.word = words (Mode.between.emits text)
  isIn : ∀ p ∈ places, ∀ more, p.IsIn (text ++ more)
  ordered : places.Pairwise fun p q => p.upTo <+: q.before
  inHand : ∀ word, Mode.between.after text = .word word → ∃ p : Place, p.IsInHand text places

section

variable {text : List Char} {places : List Place} {p : Place}

/-- Where the word in hand does not go on, it is complete. -/
theorem Place.IsInHand.isIn (h : p.IsInHand text places) {rest : List Char}
    (hend : ∀ c ∈ rest.head?, isIdentifierChar c = false) : p.IsIn (text ++ rest) where
  outside := h.outside
  begins := by rw [h.upTo_eq, h.after_eq]
  ends := ⟨rest, by rw [h.upTo_eq], hend⟩

/-- The word in hand is the last one. -/
theorem Place.IsInHand.ordered (h : p.IsInHand text places)
    (hplaces : places.Pairwise fun p q => p.upTo <+: q.before) :
    (places ++ [p]).Pairwise fun p q => p.upTo <+: q.before := by
  refine List.pairwise_append.mpr ⟨hplaces, List.pairwise_singleton _ _, ?_⟩
  intro q hq q' hq'
  obtain rfl := List.mem_singleton.mp hq'
  exact h.behind q hq

namespace Places

theorem nil : Places [] [] where
  complete := rfl
  isIn := by simp
  ordered := .nil
  inHand := by simp

/-- A word that is complete stands before the end of the text. -/
theorem upTo_prefix (h : Places text places) : ∀ q ∈ places, q.upTo <+: text := by
  intro q hq
  obtain ⟨rest, heq, -⟩ := (h.isIn q hq []).ends
  rw [List.append_nil] at heq
  exact ⟨rest, heq.symm⟩

/-- A longer text in which no other words are complete. -/
theorem extend (h : Places text places) {c : Char}
    (hwords : words ((Mode.between.after text).step c).2 = [])
    (inHand : ∀ word, Mode.between.after (text ++ [c]) = .word word →
      ∃ p : Place, p.IsInHand (text ++ [c]) places) :
    Places (text ++ [c]) places where
  complete := by
    rw [Mode.emits_append, words_append, h.complete, Mode.emits_cons, words_append, hwords]
    simp
  isIn := by
    intro q hq more
    rw [List.append_assoc]
    exact h.isIn q hq _
  ordered := h.ordered
  inHand := inHand

/-- A longer text in which the word in hand is complete. -/
theorem concat (h : Places text places) (hp : p.IsInHand text places) {c : Char}
    (hend : isIdentifierChar c = false)
    (hwords : words ((Mode.between.after text).step c).2 = [p.word])
    (hnever : ∀ next, Mode.between.after (text ++ [c]) ≠ .word next) :
    Places (text ++ [c]) (places ++ [p]) where
  complete := by
    rw [Mode.emits_append, words_append, List.map_append, h.complete, Mode.emits_cons,
      words_append, hwords]
    simp
  isIn := by
    intro q hq more
    rw [List.append_assoc]
    rcases List.mem_append.mp hq with hq | hq
    · exact h.isIn q hq _
    · obtain rfl := List.mem_singleton.mp hq
      exact hp.isIn (by simpa using hend)
  ordered := hp.ordered h.ordered
  inHand := fun next hnext => absurd hnext (hnever next)

/-- **One more character keeps all places**, and gives one to the word that it completes. -/
theorem step (h : Places text places) (c : Char) : ∃ longer, Places (text ++ [c]) longer := by
  have hafter : Mode.between.after (text ++ [c]) = ((Mode.between.after text).step c).1 := by
    rw [Mode.after_append, Mode.after_cons, Mode.after_nil]
  rcases Mode.step_words (Mode.between.after text) c with
    ⟨word, hword, hstep⟩ | ⟨word, hword, hend, hwords, hnever⟩ | ⟨-, hwords, hbegins⟩
  · -- the word in hand goes on
    obtain ⟨p, hp⟩ := h.inHand word hword
    obtain rfl : p.word = word := Mode.word.inj (hp.after_eq.symm.trans hword)
    refine ⟨places, h.extend (by rw [hstep, words_nil]) ?_⟩
    intro next _
    refine ⟨⟨p.before, p.word.push c⟩, ?_, hp.outside, by rw [hafter, hstep], hp.behind⟩
    rw [← hp.upTo_eq, Place.upTo, String.toList_push, Place.upTo, List.append_assoc]
  · -- the word in hand is complete
    obtain ⟨p, hp⟩ := h.inHand word hword
    obtain rfl : p.word = word := Mode.word.inj (hp.after_eq.symm.trans hword)
    rw [← hafter] at hnever
    exact ⟨_, h.concat hp hend hwords hnever⟩
  · -- a word begins, or none is in hand
    refine ⟨places, h.extend hwords ?_⟩
    intro next hnext
    obtain ⟨houtside, rfl⟩ := hbegins next (hafter.symm.trans hnext)
    exact ⟨⟨text, String.singleton c⟩, by simp [Place.upTo], houtside, hnext, h.upTo_prefix⟩

end Places

end

theorem exists_places (text : List Char) : ∃ places, Places text places := by
  induction text using List.reverseRecOn with
  | nil => exact ⟨[], .nil⟩
  | append_singleton text c ih =>
    obtain ⟨places, h⟩ := ih
    exact h.step c

/-- **All words of a text stand at places of their own**, in order. -/
theorem exists_placed (source : String) :
    ∃ places, places.map Place.word = words (tokenize source) ∧ Placed source.toList places := by
  obtain ⟨places, h⟩ := exists_places source.toList
  have hisIn : ∀ p ∈ places, p.IsIn source.toList := by
    intro p hp
    have := h.isIn p hp []
    rwa [List.append_nil] at this
  rw [tokenize_eq, words_append, ← h.complete]
  generalize hmode : Mode.between.after source.toList = m
  cases m with
  | word word =>
    -- the last word ends with the text
    obtain ⟨p, hp⟩ := h.inHand word hmode
    obtain rfl : p.word = word := Mode.word.inj (hp.after_eq.symm.trans hmode)
    have hlast : p.IsIn source.toList := by
      have hend : ∀ c ∈ ([] : List Char).head?, isIdentifierChar c = false := by simp
      simpa using hp.isIn hend
    refine ⟨places ++ [p], by simp [Mode.finish], ?_, hp.ordered h.ordered⟩
    intro q hq
    rcases List.mem_append.mp hq with hq | hq
    · exact hisIn q hq
    · obtain rfl := List.mem_singleton.mp hq
      exact hlast
  | _ => exact ⟨places, by simp [Mode.finish, words, Token.text?], hisIn, h.ordered⟩

/-! ## 4. The places of names -/

/-- **The names of a definition are words of its source.**  The type and the fields are a
subsequence of the words among the tokens, and in the text they stand at places of their own, in
this order, outside comments and literals.  No name is empty, and all consist of identifier
characters.  The fields are found behind the name of the type, so they are no more than the words
there. -/
theorem extract_names_stand {source : String} {d : Definition}
    (h : Extractor.declaration.extract? source = some d) :
    (d.name :: d.fields).Sublist (words (tokenize source)) ∧
    (∃ places, places.map Place.word = d.name :: d.fields ∧ Placed source.toList places) ∧
    (∀ name ∈ d.name :: d.fields,
      name ≠ "" ∧ ∀ c ∈ name.toList, isIdentifierChar c = true) ∧
    ∃ kind behind, Declaration.IsFirst (tokenize source) ⟨kind, d.name, behind⟩ ∧
      d.fields.Sublist (words behind) ∧ d.fields.length ≤ (words behind).length := by
  have hwords := Declaration.sublist_words_of_read? h
  refine ⟨hwords, ?_, fun name hname => run_of_mem_words (hwords.subset hname), ?_⟩
  · obtain ⟨places, hplaces, hplaced⟩ := exists_placed source
    rw [← hplaces] at hwords
    obtain ⟨fewer, hfewer, hnames⟩ := List.sublist_map_iff.mp hwords
    exact ⟨fewer, hnames.symm, hplaced.sublist hfewer⟩
  · obtain ⟨declaration, hfirst, rfl⟩ := Option.map_eq_some_iff.mp h
    have hfields : declaration.fields.Sublist (words declaration.tokens) :=
      declaration.fields_sublist
    exact ⟨declaration.kind, declaration.tokens, Declaration.first?_eq_some_iff.mp hfirst, hfields,
      hfields.length_le⟩

namespace UnclosedRecord

/-! A source that is no program: a keyword before a literal, a comment in the list of components, a
brace that closes nothing, and a body and a parenthesis that nothing closes. -/

def source : String :=
  "/* class X */ enum \"class\" record R(int a, /* b */ T<c> d) \x7d \x7b int e = \"f\", g; (h"

def definition : Definition :=
  ⟨"R", ["a", "d", "e", "g"]⟩

end UnclosedRecord

open UnclosedRecord in
theorem extract_names_stand_unclosed :
    Extractor.declaration.extract? source = some definition ∧
    (definition.name :: definition.fields).Sublist (words (tokenize source)) ∧
    (∃ places, places.map Place.word = definition.name :: definition.fields ∧
      Placed source.toList places) ∧
    (∀ name ∈ definition.name :: definition.fields,
      name ≠ "" ∧ ∀ c ∈ name.toList, isIdentifierChar c = true) ∧
    ∃ kind behind, Declaration.IsFirst (tokenize source) ⟨kind, definition.name, behind⟩ ∧
      definition.fields.Sublist (words behind) ∧
      definition.fields.length ≤ (words behind).length := by
  have hextract : Extractor.declaration.extract? source = some definition := by decide +kernel
  exact ⟨hextract, extract_names_stand hextract⟩

end SeriesSchema
