import Mathlib.Data.List.DropRight
import SeriesSchema.Extractor
import SeriesSchema.Proofs.SeparatedWords

/-!
# What the search by pattern finds, sign by sign

The search by pattern is said in terms of places where a match begins.  What it finds is easier to
say in terms of the signs at which matches end, for each of these can be judged on its own, by what
stands before it:

* a separator gives the run of word characters right before it, provided that a blank stands before
  the run (`fieldBefore?`);
* a brace gives the word before it and before the blanks that may come in between, if a blank stands
  before that word; failing that it gives the empty name, if there were blanks (`typeBefore?`).

The fields of a text are what its separators give, from left to right (`fieldNames_pattern`): no
match hides another one, and none is found twice.  The type of a text is what the first brace gives
that gives anything (`typeName?_pattern`).

The first is shown on the scan for fields, whose run in hand is what stands right before a place.
For the second the search is followed from the left: a character put in front of a text changes what
a brace gives only if a match begins with that character (`typeBefore?_cons`).

1. the places of a text;
2. fields;
3. the type.
-/

namespace SeriesSchema

open Text SeparatedWord

/-! ## 1. The places of a text -/

section Places

variable {α : Type} {find find' : List Char → Char → Option α}

/-- What is found at the places of a text, from left to right, if `find` is shown what stands before
a place and the character there. -/
def atPlaces (find : List Char → Char → Option α) (text : List Char) : List α :=
  (List.range text.length).filterMap fun i => text[i]?.bind (find (text.take i))

@[simp] theorem atPlaces_nil : atPlaces find [] = [] := rfl

theorem atPlaces_cons (c : Char) (cs : List Char) :
    atPlaces find (c :: cs) =
      (find [] c).toList ++ atPlaces (fun before => find (c :: before)) cs := by
  rw [atPlaces, List.length_cons, List.range_succ_eq_map, List.filterMap_cons,
    List.filterMap_map]
  cases hfirst : find [] c with
  | none =>
    simp only [List.getElem?_cons_zero, List.take_zero, Option.bind_some, hfirst]
    rfl
  | some a =>
    simp only [List.getElem?_cons_zero, List.take_zero, Option.bind_some, hfirst]
    rfl

theorem atPlaces_append (s t : List Char) :
    atPlaces find (s ++ t) = atPlaces find s ++ atPlaces (fun before => find (s ++ before)) t := by
  induction s generalizing find with
  | nil => rfl
  | cons c cs ih =>
    rw [List.cons_append, atPlaces_cons, atPlaces_cons, ih, List.append_assoc]
    rfl

/-- What is found depends only on what `find` says of the places of the text. -/
theorem atPlaces_congr {text : List Char}
    (h : ∀ before c behind, text = before ++ c :: behind → find before c = find' before c) :
    atPlaces find text = atPlaces find' text := by
  induction text generalizing find find' with
  | nil => rfl
  | cons c cs ih =>
    rw [atPlaces_cons, atPlaces_cons, h [] c cs rfl]
    congr 1
    exact ih fun before d behind heq => h (c :: before) d behind (by rw [heq]; rfl)

theorem atPlaces_eq_nil_iff {text : List Char} :
    atPlaces find text = [] ↔
      ∀ before c behind, text = before ++ c :: behind → find before c = none := by
  constructor
  · rintro h before c behind rfl
    rw [atPlaces_append, atPlaces_cons, List.append_nil] at h
    simpa using (List.append_eq_nil_iff.mp (List.append_eq_nil_iff.mp h).2).1
  · intro h
    have hnone : atPlaces find text = atPlaces (fun _ _ => none) text := atPlaces_congr h
    rw [hnone, atPlaces]
    simp

end Places

/-! ## 2. Fields -/

/-- The run of word characters right before a place, if a blank stands before the run; `before` is
what stands before the place. -/
def runBefore? (before : List Char) : Option (List Char) :=
  if (before.rdropWhile isWordChar).getLast?.any isBlank then some (before.rtakeWhile isWordChar)
  else none

/-- The field that a separator gives. -/
def fieldBefore? (before : List Char) : Option String :=
  (runBefore? before).map String.ofList

theorem runBefore?_concat (before : List Char) (c : Char) :
    runBefore? (before ++ [c]) =
      if isBlank c then some []
      else if isWordChar c then (runBefore? before).map (· ++ [c]) else none := by
  by_cases hword : isWordChar c = true
  · have hblank : ¬ isBlank c = true := by simp [not_isBlank_of_isWordChar hword]
    rw [if_neg hblank, if_pos hword, runBefore?, runBefore?, List.rdropWhile_concat_pos _ _ _ hword,
      List.rtakeWhile_concat_pos _ _ _ hword]
    split
    · rfl
    · rfl
  · rw [if_neg hword, runBefore?, List.rdropWhile_concat_neg _ _ _ hword,
      List.rtakeWhile_concat_neg _ _ _ hword]
    simp

/-- **The run that the scan has in hand is the one before the place that it has come to.** -/
theorem scan_runBefore? (before text : List Char) :
    scan (runBefore? before) text =
      atPlaces (fun b c => if isSeparator c then fieldBefore? (before ++ b) else none) text := by
  induction text generalizing before with
  | nil => rw [scan, atPlaces_nil]
  | cons c cs ih =>
    have hrest := ih (before ++ [c])
    simp only [List.append_assoc, List.singleton_append] at hrest
    rw [scan, atPlaces_cons, ← hrest, runBefore?_concat, List.append_nil]
    by_cases hblank : isBlank c = true
    · simp [hblank, not_isSeparator_of_isBlank hblank]
    by_cases hseparator : isSeparator c = true
    · simp [hblank, hseparator, not_isWordChar_of_isSeparator hseparator, fieldBefore?]
    · by_cases hword : isWordChar c = true
      · simp [hblank, hword, hseparator]
      · simp [hblank, hword, hseparator]

theorem runBefore?_append {run : List Char} (h : ∀ c ∈ run, isWordChar c = true)
    (before : List Char) :
    runBefore? (before ++ run) = (runBefore? before).map (· ++ run) := by
  induction run generalizing before with
  | nil => simp
  | cons c cs ih =>
    have hc := h c List.mem_cons_self
    have hrest := ih (fun d hd => h d (List.mem_cons_of_mem _ hd)) (before ++ [c])
    rw [List.append_assoc, List.singleton_append] at hrest
    rw [hrest, runBefore?_concat, if_neg (by simp [not_isBlank_of_isWordChar hc]), if_pos hc]
    cases runBefore? before <;> simp

theorem runBefore?_eq_some_iff {before run : List Char} :
    runBefore? before = some run ↔
      ∃ front blank, before = front ++ blank :: run ∧ isBlank blank = true ∧
        ∀ c ∈ run, isWordChar c = true := by
  constructor
  · intro h
    rw [runBefore?] at h
    split at h
    · rename_i hlast
      obtain ⟨blank, hget, hblank⟩ := (Option.any_eq_true isBlank _).mp hlast
      obtain ⟨front, hfront⟩ := List.getLast?_eq_some_iff.mp hget
      have hrun := Option.some.inj h
      refine ⟨front, blank, ?_, hblank, fun c hc => ?_⟩
      · rw [← hrun, ← List.singleton_append, ← List.append_assoc, ← hfront,
          List.rdropWhile_append_rtakeWhile]
      · rw [← hrun] at hc
        exact List.mem_rtakeWhile_imp hc
    · cases h
  · rintro ⟨front, blank, rfl, hblank, hrun⟩
    have := runBefore?_append hrun (front ++ [blank])
    rw [List.append_assoc, List.singleton_append] at this
    rw [this, runBefore?_concat, if_pos hblank]
    rfl

/-- A separator gives a field exactly if the pattern of a field fits somewhere so as to end with
it, and then gives that field. -/
theorem fieldBefore?_eq_some_iff {before behind : List Char} {c : Char}
    (hc : isSeparator c = true) {name : String} :
    fieldBefore? before = some name ↔
      ∃ front text, before = front ++ text ∧
        fieldHere? (text ++ c :: behind) = some (name, behind) := by
  constructor
  · intro h
    obtain ⟨run, hrun, rfl⟩ := Option.map_eq_some_iff.mp h
    obtain ⟨front, blank, rfl, hblank, hword⟩ := runBefore?_eq_some_iff.mp hrun
    exact ⟨front, blank :: run, rfl,
      fieldHere?_eq_some_iff.mpr ⟨blank, run, c, rfl, hblank, hword, hc, rfl⟩⟩
  · rintro ⟨front, text, rfl, h⟩
    obtain ⟨blank, run, separator, heq, hblank, hword, -, rfl⟩ := fieldHere?_eq_some_iff.mp h
    have hsplit : text ++ [c] = (blank :: run) ++ [separator] := by
      rw [← List.append_left_inj behind]
      simpa using heq
    obtain ⟨rfl, -⟩ := List.append_inj' hsplit rfl
    have hrun := runBefore?_eq_some_iff.mpr ⟨front, blank, rfl, hblank, hword⟩
    rw [fieldBefore?, hrun]
    rfl

/-- **The fields found by pattern are those that the separators give**, one after the other.  A
separator gives one exactly if the pattern fits so as to end with it: whatever else is found, none
of these is passed over, and none is found twice. -/
theorem fieldNames_pattern (source : String) :
    Extractor.pattern.fieldNames source =
        atPlaces (fun before c => if isSeparator c then fieldBefore? before else none)
          source.toList ∧
      ∀ before c behind, source.toList = before ++ c :: behind → isSeparator c = true →
        ∀ name, fieldBefore? before = some name ↔
          ∃ front text, before = front ++ text ∧
            fieldHere? (text ++ c :: behind) = some (name, behind) := by
  constructor
  · rw [Extractor.fieldNames, fields_eq_scan]
    exact scan_runBefore? [] source.toList
  · intro before c behind _ hc name
    exact fieldBefore?_eq_some_iff hc

/-- Of the three separators of this text the second gives nothing, and the third an empty name. -/
theorem fieldNames_pattern_threeSeparators :
    " a,b, c ;".toList = " a".toList ++ ',' :: "b, c ;".toList ∧ isSeparator ',' = true ∧
      Extractor.pattern.fieldNames " a,b, c ;" = ["a", ""] ∧
      (fieldBefore? " a".toList = some "a" ↔
        ∃ front text, " a".toList = front ++ text ∧
          fieldHere? (text ++ ',' :: "b, c ;".toList) = some ("a", "b, c ;".toList)) := by
  refine ⟨rfl, rfl, ?_, (fieldNames_pattern " a,b, c ;").2 _ ',' _ rfl rfl "a"⟩
  rw [(fieldNames_pattern " a,b, c ;").1]
  decide +kernel

/-! ## 3. The type -/

/-- The name of a type that a brace gives: the word before it, blanks between them left out, if a
blank stands before that word; failing that the empty name, if there are blanks before the brace. -/
def typeBefore? (before : List Char) : Option String :=
  let front := before.rdropWhile isBlank
  let word := front.rtakeWhile isWordChar
  if word ≠ [] ∧ (front.rdropWhile isWordChar).getLast?.any isBlank then some (String.ofList word)
  else if before.rtakeWhile isBlank ≠ [] then some ""
  else none

section Ends

variable {α : Type} (p : α → Bool) (x : α) (l : List α)

theorem rdropWhile_cons :
    (x :: l).rdropWhile p =
      if l.rdropWhile p = [] then if p x then [] else [x] else x :: l.rdropWhile p := by
  rw [List.rdropWhile, List.rdropWhile, List.reverse_cons, List.dropWhile_append]
  by_cases h : l.reverse.dropWhile p = []
  · by_cases hx : p x = true
    · simp [h, hx]
    · simp [h, hx]
  · simp [h]

/-- An element in front belongs to the last run only if all the others do. -/
theorem rtakeWhile_cons :
    (x :: l).rtakeWhile p = if l.rdropWhile p = [] ∧ p x then x :: l else l.rtakeWhile p := by
  have hsplit : (x :: l).rdropWhile p ++ (x :: l).rtakeWhile p =
      x :: (l.rdropWhile p ++ l.rtakeWhile p) := by
    rw [List.rdropWhile_append_rtakeWhile, List.rdropWhile_append_rtakeWhile]
  rw [rdropWhile_cons] at hsplit
  by_cases h : l.rdropWhile p = []
  · by_cases hx : p x = true
    · have hl : l.rtakeWhile p = l := List.rtakeWhile_eq_self_iff.mpr
        (List.rdropWhile_eq_nil_iff.mp h)
      simpa [h, hx, hl] using hsplit
    · simpa [h, hx] using hsplit
  · rw [if_neg h, List.cons_append] at hsplit
    rw [if_neg fun hall => h hall.1]
    exact List.append_cancel_left (List.cons.inj hsplit).2

variable {p l}

theorem rdropWhile_append_of_pos {t : List α} (h : ∀ x ∈ t, p x = true) :
    (l ++ t).rdropWhile p = l.rdropWhile p := by
  rw [List.rdropWhile, List.reverse_append, List.dropWhile_append_of_pos (by simpa using h),
    List.rdropWhile]

theorem rdropWhile_of_neg (h : ∀ x ∈ l, p x = false) : l.rdropWhile p = l := by
  rw [List.rdropWhile_eq_self_iff]
  intro hne
  simp [h _ (List.getLast_mem hne)]

end Ends

/-- Whether a text is a word with blanks behind it; both may be empty. -/
def IsGap (text : List Char) : Prop :=
  ∃ word blanks, text = word ++ blanks ∧ (∀ c ∈ word, isWordChar c = true) ∧
    ∀ c ∈ blanks, isBlank c = true

theorem isGap_iff {text : List Char} :
    IsGap text ↔ (text.rdropWhile isBlank).rdropWhile isWordChar = [] := by
  constructor
  · rintro ⟨word, blanks, rfl, hword, hblanks⟩
    rw [rdropWhile_append_of_pos hblanks,
      rdropWhile_of_neg fun c hc => not_isBlank_of_isWordChar (hword c hc)]
    exact List.rdropWhile_eq_nil_iff.mpr hword
  · intro h
    refine ⟨_, _, (List.rdropWhile_append_rtakeWhile (p := isBlank)).symm,
      List.rdropWhile_eq_nil_iff.mp h, fun c hc => List.mem_rtakeWhile_imp hc⟩

/-- A brace gives the word of the match that ends with it. -/
theorem typeBefore?_of_match {blank : Char} {word blanks : List Char}
    (hblank : isBlank blank = true) (hword : ∀ c ∈ word, isWordChar c = true)
    (hblanks : ∀ c ∈ blanks, isBlank c = true) :
    typeBefore? (blank :: (word ++ blanks)) = some (String.ofList word) := by
  have hback : ∀ c ∈ word, isBlank c = false := fun c hc => not_isBlank_of_isWordChar (hword c hc)
  by_cases hne : word = []
  · subst hne
    have hall : ∀ c ∈ blank :: blanks, isBlank c = true :=
      List.forall_mem_cons.mpr ⟨hblank, hblanks⟩
    have hdrop : (blank :: blanks).rdropWhile isBlank = [] := List.rdropWhile_eq_nil_iff.mpr hall
    have htake : (blank :: blanks).rtakeWhile isBlank = blank :: blanks :=
      List.rtakeWhile_eq_self_iff.mpr hall
    rw [List.nil_append, typeBefore?, hdrop, htake]
    rfl
  · have hfront : (blank :: (word ++ blanks)).rdropWhile isBlank = blank :: word := by
      rw [rdropWhile_cons, rdropWhile_append_of_pos hblanks, rdropWhile_of_neg hback, if_neg hne]
    have hnil : word.rdropWhile isWordChar = [] := List.rdropWhile_eq_nil_iff.mpr hword
    have hstart : ¬ isWordChar blank = true := by simp [not_isWordChar_of_isBlank hblank]
    have hrun : (blank :: word).rtakeWhile isWordChar = word := by
      rw [rtakeWhile_cons, if_neg fun h => hstart h.2]
      exact List.rtakeWhile_eq_self_iff.mpr hword
    have hbefore : (blank :: word).rdropWhile isWordChar = [blank] := by
      rw [rdropWhile_cons, if_pos hnil, if_neg hstart]
    rw [typeBefore?, hfront, hrun, hbefore]
    exact if_pos ⟨hne, by simpa using hblank⟩

/-- Without a blank before the word, only blanks before the brace count. -/
theorem typeBefore?_of_no_word {before : List Char}
    (h : ((before.rdropWhile isBlank).rdropWhile isWordChar).getLast?.any isBlank = false) :
    typeBefore? before = if before.rtakeWhile isBlank ≠ [] then some "" else none := by
  rw [typeBefore?]
  exact if_neg fun hyes => Bool.false_ne_true (h.symm.trans hyes.2)

/-- **A character in front changes what a brace gives only if a match begins with it.** -/
theorem typeBefore?_cons {c : Char} {before : List Char}
    (h : ¬ (isBlank c = true ∧ IsGap before)) :
    typeBefore? (c :: before) = typeBefore? before := by
  rw [isGap_iff] at h
  have hblanks : (c :: before).rtakeWhile isBlank = before.rtakeWhile isBlank := by
    rw [rtakeWhile_cons, if_neg]
    rintro ⟨hall, hc⟩
    exact h ⟨hc, by rw [hall]; rfl⟩
  by_cases hgap : (before.rdropWhile isBlank).rdropWhile isWordChar = []
  · -- the character is no blank, so that no word stands behind one
    have hc : ¬ isBlank c = true := fun hc => h ⟨hc, hgap⟩
    have hcons : (c :: before).rdropWhile isBlank = c :: before.rdropWhile isBlank := by
      rw [rdropWhile_cons, if_neg hc]
      split
      · rename_i hnil
        rw [hnil]
      · rfl
    have hlast : (((c :: before).rdropWhile isBlank).rdropWhile isWordChar).getLast?.any isBlank =
        false := by
      rw [hcons, rdropWhile_cons, if_pos hgap]
      split
      · rfl
      · simpa using hc
    rw [typeBefore?_of_no_word hlast, typeBefore?_of_no_word (by rw [hgap]; rfl), hblanks]
  · -- what stands before the word begins behind the character
    have hfront : before.rdropWhile isBlank ≠ [] := fun hnil => hgap (by rw [hnil]; rfl)
    have hcons : (c :: before).rdropWhile isBlank = c :: before.rdropWhile isBlank := by
      rw [rdropWhile_cons, if_neg hfront]
    have hrun : (c :: before.rdropWhile isBlank).rtakeWhile isWordChar =
        (before.rdropWhile isBlank).rtakeWhile isWordChar := by
      rw [rtakeWhile_cons, if_neg fun hall => hgap hall.1]
    obtain ⟨d, ds, heq⟩ := List.exists_cons_of_ne_nil hgap
    have hlast : ((c :: before.rdropWhile isBlank).rdropWhile isWordChar).getLast? =
        ((before.rdropWhile isBlank).rdropWhile isWordChar).getLast? := by
      rw [rdropWhile_cons, if_neg hgap, heq, List.getLast?_cons_cons]
    rw [typeBefore?, typeBefore?, hcons, hrun, hlast, hblanks]

/-- What the braces of a text give, one after the other. -/
def typesAtBraces (text : List Char) : List String :=
  atPlaces (fun before c => if c = '\x7b' then typeBefore? before else none) text

/-- **A search that goes from left to right finds what the first brace gives that gives
anything.** -/
theorem typeName?_eq_head? (text : List Char) :
    SeparatedWord.typeName? text = (typesAtBraces text).head? := by
  induction text with
  | nil => rfl
  | cons c cs ih =>
    have hstart : (if c = '\x7b' then typeBefore? [] else none) = none := by
      split
      · rfl
      · rfl
    rw [SeparatedWord.typeName?, typesAtBraces, atPlaces_cons, hstart, Option.toList_none,
      List.nil_append]
    cases hhere : typeHere? (c :: cs) with
    | some name =>
      -- a match begins here, and the brace at its end is the first
      obtain ⟨blank, word, blanks, rest, heq, hblank, hword, hblanks, rfl⟩ :=
        typeHere?_eq_some_iff.mp hhere
      obtain ⟨rfl, rfl⟩ := List.cons.inj heq
      have hbraces : atPlaces (fun before d =>
          if d = '\x7b' then typeBefore? (c :: before) else none) (word ++ blanks) = [] := by
        refine atPlaces_eq_nil_iff.mpr fun before d behind hplace => if_neg ?_
        have hd : d ∈ word ++ blanks := by simp [hplace]
        rintro rfl
        rcases List.mem_append.mp hd with hd | hd
        · cases not_isWordChar_brace.symm.trans (hword _ hd)
        · cases not_isBlank_brace.symm.trans (hblanks _ hd)
      rw [← List.append_assoc, atPlaces_append, hbraces, List.nil_append, atPlaces_cons,
        if_pos rfl, List.append_nil, typeBefore?_of_match hblank hword hblanks]
      rfl
    | none =>
      -- no match begins here, so the character changes nothing
      have hsame : atPlaces (fun before d =>
          if d = '\x7b' then typeBefore? (c :: before) else none) cs = typesAtBraces cs := by
        refine atPlaces_congr fun before d behind hplace => ?_
        split
        · rename_i hd
          refine typeBefore?_cons ?_
          rintro ⟨hblank, word, blanks, rfl, hword, hblanks⟩
          have hmatch : typeHere? (c :: cs) = some (String.ofList word) :=
            typeHere?_eq_some_iff.mpr ⟨c, word, blanks, behind, by simp [hplace, hd], hblank, hword,
              hblanks, rfl⟩
          cases hhere.symm.trans hmatch
        · rfl
      rw [hsame]
      exact ih

/-- **The type found by pattern is what the first brace gives that gives anything**, and there is
none exactly if no brace gives one. -/
theorem typeName?_pattern (source : String) :
    Extractor.pattern.typeName? source = (typesAtBraces source.toList).head? ∧
      (Extractor.pattern.typeName? source = none ↔
        ∀ before behind, source.toList = before ++ '\x7b' :: behind →
          typeBefore? before = none) := by
  have hhead := typeName?_eq_head? source.toList
  refine ⟨hhead, ?_⟩
  rw [Extractor.typeName?, hhead, List.head?_eq_none_iff, typesAtBraces, atPlaces_eq_nil_iff]
  constructor
  · intro h before behind heq
    exact (if_pos rfl).symm.trans (h before '\x7b' behind heq)
  · intro h before c behind heq
    split
    · rename_i hc
      exact h before behind (by rw [heq, hc])
    · rfl

/-- The first brace of this text gives nothing, the second gives the type. -/
theorem typeName?_pattern_secondBrace :
    typeBefore? "a".toList = none ∧ Extractor.pattern.typeName? "a\x7b B \x7b" = some "B" := by
  refine ⟨by decide +kernel, ?_⟩
  rw [(typeName?_pattern "a\x7b B \x7b").1]
  decide +kernel

end SeriesSchema
