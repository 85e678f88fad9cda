import SeriesSchema.SeparatedWord

/-!
# The search for separated words as one scan

The search by pattern tries each place of a text and goes on behind what it took.  For a proof that
puts a text together piece by piece this is the wrong order: where a match began matters at its end.
So the search for fields is shown to be one scan from left to right that keeps a single thing, the
run of word characters after the last blank if nothing else has come in between (`fields_eq_scan`).
A separator that meets such a run ends a field.

It rests on the fact that matches do not overlap: what a match takes holds no blank but its first
character, so that no other match could have begun within it (`fields_cons`).

For the type only the first brace is looked at: what stands before it does not matter up to a last
blank with a word behind (`typeName?_append`).
-/

namespace SeriesSchema.SeparatedWord

open Text

/-! ## 1. Kinds of characters -/

theorem not_isWordChar_of_isBlank {c : Char} (h : isBlank c = true) : isWordChar c = false :=
  (not_word_of_isBlank h).2

theorem not_isBlank_of_isWordChar {c : Char} (h : isWordChar c = true) : isBlank c = false := by
  cases hc : isBlank c with
  | false => rfl
  | true =>
    rw [not_isWordChar_of_isBlank hc] at h
    cases h

theorem not_isBlank_of_isSeparator {c : Char} (h : isSeparator c = true) : isBlank c = false := by
  unfold isSeparator at h
  rw [Bool.or_eq_true, beq_iff_eq, beq_iff_eq] at h
  rcases h with rfl | rfl <;> decide

theorem not_isWordChar_of_isSeparator {c : Char} (h : isSeparator c = true) :
    isWordChar c = false := by
  unfold isSeparator at h
  rw [Bool.or_eq_true, beq_iff_eq, beq_iff_eq] at h
  rcases h with rfl | rfl
  · exact (word_classes_of_ascii (by decide)).2.trans (by decide)
  · exact (word_classes_of_ascii (by decide)).2.trans (by decide)

theorem not_isSeparator_of_isBlank {c : Char} (h : isBlank c = true) : isSeparator c = false := by
  cases hc : isSeparator c with
  | false => rfl
  | true =>
    rw [not_isBlank_of_isSeparator hc] at h
    cases h

/-! ## 2. Matches do not overlap -/

/-- The field that a run goes on to, if the text brings it to an end: `read` is what has been read
of the run. -/
def fieldAfter? (read : List Char) (text : List Char) : Option String :=
  match text.dropWhile isWordChar with
  | [] => none
  | s :: _ =>
    if isSeparator s then some (String.ofList (read ++ text.takeWhile isWordChar)) else none

theorem fieldAfter?_of_isWordChar {c : Char} (h : isWordChar c = true) (read cs : List Char) :
    fieldAfter? read (c :: cs) = fieldAfter? (read ++ [c]) cs := by
  rw [fieldAfter?, fieldAfter?, List.dropWhile_cons_of_pos h, List.takeWhile_cons_of_pos h,
    List.append_assoc, List.singleton_append]

/-- A run ends with the first character that is none of a word. -/
theorem fieldAfter?_of_not_isWordChar {c : Char} (h : isWordChar c = false) (read cs : List Char) :
    fieldAfter? read (c :: cs) = if isSeparator c then some (String.ofList read) else none := by
  have hc : ¬ isWordChar c = true := by simp [h]
  rw [fieldAfter?, List.dropWhile_cons_of_neg hc, List.takeWhile_cons_of_neg hc, List.append_nil]

theorem fields_of_some {text rest : List Char} {name : String}
    (h : fieldHere? text = some (name, rest)) : fields text = name :: fields rest := by
  rw [fields]
  split
  · rename_i h'
    obtain ⟨rfl, rfl⟩ := Prod.mk.inj (Option.some.inj (h.symm.trans h'))
    rfl
  · rename_i h'
    rw [h] at h'
    cases h'

theorem fields_of_none {c : Char} {cs : List Char} (h : fieldHere? (c :: cs) = none) :
    fields (c :: cs) = fields cs := by
  rw [fields]
  split
  · rename_i h'
    rw [h] at h'
    cases h'
  · rfl

/-- **A field** is a blank, a run of word characters, and a separator. -/
theorem fieldHere?_eq_some_iff {text rest : List Char} {name : String} :
    fieldHere? text = some (name, rest) ↔
      ∃ blank run separator, text = blank :: (run ++ separator :: rest) ∧ isBlank blank = true ∧
        (∀ c ∈ run, isWordChar c = true) ∧ isSeparator separator = true ∧
        name = String.ofList run := by
  constructor
  · intro h
    rw [fieldHere?.eq_def] at h
    split at h
    · cases h
    · rename_i c cs
      split at h
      · rename_i hblank
        split at h
        · rename_i s behind hdrop
          split at h
          · rename_i hs
            obtain ⟨rfl, rfl⟩ := Prod.mk.inj (Option.some.inj h)
            refine ⟨c, cs.takeWhile isWordChar, s, ?_, hblank,
              List.all_eq_true.mp List.all_takeWhile, hs, rfl⟩
            rw [← hdrop, List.takeWhile_append_dropWhile]
          · cases h
        · cases h
      · cases h
  · rintro ⟨blank, run, separator, rfl, hblank, hrun, hs, rfl⟩
    have hend : ¬ isWordChar separator = true := by simp [not_isWordChar_of_isSeparator hs]
    rw [fieldHere?, if_pos hblank, List.dropWhile_append_of_pos hrun,
      List.dropWhile_cons_of_neg hend, List.takeWhile_append_of_pos hrun,
      List.takeWhile_cons_of_neg hend, List.append_nil]
    exact if_pos hs

/-- A field begins at a blank only, and is what the run behind it goes on to. -/
theorem map_fieldHere? (c : Char) (cs : List Char) :
    (fieldHere? (c :: cs)).map Prod.fst = if isBlank c then fieldAfter? [] cs else none := by
  rw [fieldHere?, fieldAfter?]
  split
  · cases cs.dropWhile isWordChar with
    | nil => rfl
    | cons s rest =>
      dsimp only
      split
      · rfl
      · rfl
  · rfl

/-- Where no blank is passed, no field is. -/
theorem fields_append {text : List Char} (h : ∀ c ∈ text, isBlank c = false) (rest : List Char) :
    fields (text ++ rest) = fields rest := by
  induction text with
  | nil => rfl
  | cons c cs ih =>
    have hc : fieldHere? (c :: (cs ++ rest)) = none := by
      rw [fieldHere?, if_neg (by simp [h c List.mem_cons_self])]
    rw [List.cons_append, fields_of_none hc]
    exact ih fun d hd => h d (List.mem_cons_of_mem _ hd)

/-- **Matches do not overlap**: the fields of a text are the one at its head, if there is one, and
those that are found from the second character on. -/
theorem fields_cons (c : Char) (cs : List Char) :
    fields (c :: cs) = ((fieldHere? (c :: cs)).map Prod.fst).toList ++ fields cs := by
  cases hhere : fieldHere? (c :: cs) with
  | none => rw [fields_of_none hhere, Option.map_none, Option.toList_none, List.nil_append]
  | some field =>
    obtain ⟨name, rest⟩ := field
    rw [fields_of_some hhere, Option.map_some, Option.toList_some, List.singleton_append]
    -- what was taken behind the blank is a run of word characters and a separator
    obtain ⟨blank, run, separator, heq, -, hrun, hs, -⟩ := fieldHere?_eq_some_iff.mp hhere
    obtain ⟨rfl, rfl⟩ := List.cons.inj heq
    have hblank : ∀ d ∈ run ++ [separator], isBlank d = false := by
      intro d hd
      rcases List.mem_append.mp hd with hd | hd
      · exact not_isBlank_of_isWordChar (hrun d hd)
      · rw [List.mem_singleton.mp hd]
        exact not_isBlank_of_isSeparator hs
    have := fields_append hblank rest
    rw [List.append_assoc, List.singleton_append] at this
    rw [this]

/-! ## 3. The scan -/

/-- The fields of a text, of which `run` has been read: the word characters since the last blank, if
there was one and nothing else has come since. -/
def scan : Option (List Char) → List Char → List String
  | _, [] => []
  | run, c :: cs =>
    if isBlank c then scan (some []) cs
    else if isWordChar c then scan (run.map (· ++ [c])) cs
    else if isSeparator c then (run.map String.ofList).toList ++ scan none cs
    else scan none cs

/-- What the scan finds is what the run in hand goes on to, and the fields of the text. -/
theorem scan_eq (run : Option (List Char)) (text : List Char) :
    scan run text = (run.bind (fieldAfter? · text)).toList ++ fields text := by
  induction text generalizing run with
  | nil => cases run <;> simp [scan, fieldAfter?, fields, fieldHere?]
  | cons c cs ih =>
    rw [scan, fields_cons, map_fieldHere?]
    by_cases hblank : isBlank c = true
    · -- the run in hand ends without a separator, and a new one begins
      have hnone : run.bind (fieldAfter? · (c :: cs)) = none := by
        cases run with
        | none => rfl
        | some read =>
          simp [fieldAfter?_of_not_isWordChar (not_isWordChar_of_isBlank hblank),
            not_isSeparator_of_isBlank hblank]
      rw [if_pos hblank, if_pos hblank, ih, hnone]
      rfl
    rw [if_neg hblank, if_neg hblank]
    by_cases hword : isWordChar c = true
    · have hgo : run.bind (fieldAfter? · (c :: cs)) =
          (run.map (· ++ [c])).bind (fieldAfter? · cs) := by
        cases run with
        | none => rfl
        | some read => exact fieldAfter?_of_isWordChar hword read cs
      rw [if_pos hword, ih, hgo]
      rfl
    · have hends : run.bind (fieldAfter? · (c :: cs)) =
          if isSeparator c then run.map String.ofList else none := by
        cases run with
        | none => simp
        | some read => simp [fieldAfter?_of_not_isWordChar (Bool.eq_false_iff.mpr hword)]
      rw [if_neg hword, hends, ih]
      split
      · rfl
      · rfl

/-- **The search for fields is the scan.** -/
theorem fields_eq_scan (text : List Char) : fields text = scan none text := by
  rw [scan_eq]
  rfl

/-! ## 4. Scanning pieces of a text -/

theorem scan_blank (run : Option (List Char)) {c : Char} (h : isBlank c = true)
    (rest : List Char) : scan run (c :: rest) = scan (some []) rest := by
  rw [scan, if_pos h]

/-- More blanks after a blank change nothing. -/
theorem scan_blanks {text : List Char} (h : ∀ c ∈ text, isBlank c = true) (rest : List Char) :
    scan (some []) (text ++ rest) = scan (some []) rest := by
  induction text with
  | nil => rfl
  | cons c cs ih =>
    rw [List.cons_append, scan_blank _ (h c List.mem_cons_self)]
    exact ih fun d hd => h d (List.mem_cons_of_mem _ hd)

theorem scan_word (run : Option (List Char)) {text : List Char}
    (h : ∀ c ∈ text, isWordChar c = true) (rest : List Char) :
    scan run (text ++ rest) = scan (run.map (· ++ text)) rest := by
  induction text generalizing run with
  | nil => cases run <;> simp
  | cons c cs ih =>
    have hc := h c List.mem_cons_self
    rw [List.cons_append, scan, if_neg (by simp [not_isBlank_of_isWordChar hc]), if_pos hc,
      ih _ fun d hd => h d (List.mem_cons_of_mem _ hd)]
    cases run <;> simp

theorem scan_separator (run : Option (List Char)) {c : Char} (h : isSeparator c = true)
    (rest : List Char) :
    scan run (c :: rest) = (run.map String.ofList).toList ++ scan none rest := by
  rw [scan, if_neg (by simp [not_isBlank_of_isSeparator h]),
    if_neg (by simp [not_isWordChar_of_isSeparator h]), if_pos h]

/-- Any other character ends a run and no field. -/
theorem scan_other (run : Option (List Char)) {c : Char} (hblank : isBlank c = false)
    (hword : isWordChar c = false) (h : isSeparator c = false) (rest : List Char) :
    scan run (c :: rest) = scan none rest := by
  rw [scan, if_neg (by simp [hblank]), if_neg (by simp [hword]), if_neg (by simp [h])]

/-! ## 5. The type -/

theorem not_isBlank_brace : isBlank '\x7b' = false := by decide

theorem not_isWordChar_brace : isWordChar '\x7b' = false :=
  (word_classes_of_ascii (by decide)).2.trans (by decide)

/-- A word ends where blanks and a brace begin. -/
theorem dropWhile_isWordChar_blanks {blanks : List Char} (hblanks : ∀ c ∈ blanks, isBlank c = true)
    (rest : List Char) :
    (blanks ++ '\x7b' :: rest).dropWhile isWordChar = blanks ++ '\x7b' :: rest ∧
      (blanks ++ '\x7b' :: rest).takeWhile isWordChar = [] := by
  cases blanks with
  | nil => simp [not_isWordChar_brace]
  | cons b bs => simp [not_isWordChar_of_isBlank (hblanks b List.mem_cons_self)]

/-- **A type** is a blank, a run of word characters, any number of blanks, and a brace. -/
theorem typeHere?_eq_some_iff {text : List Char} {name : String} :
    typeHere? text = some name ↔
      ∃ blank word blanks rest, text = blank :: (word ++ (blanks ++ '\x7b' :: rest)) ∧
        isBlank blank = true ∧ (∀ c ∈ word, isWordChar c = true) ∧
        (∀ c ∈ blanks, isBlank c = true) ∧ name = String.ofList word := by
  constructor
  · intro h
    rw [typeHere?.eq_def] at h
    split at h
    · cases h
    · rename_i c cs
      split at h
      · rename_i hmatch
        obtain ⟨hblank, hbrace⟩ := Bool.and_eq_true_iff.mp hmatch
        obtain ⟨rest, hrest⟩ := List.head?_eq_some_iff.mp (beq_iff_eq.mp hbrace)
        refine ⟨c, cs.takeWhile isWordChar, (cs.dropWhile isWordChar).takeWhile isBlank, rest, ?_,
          hblank, List.all_eq_true.mp List.all_takeWhile, List.all_eq_true.mp List.all_takeWhile,
          (Option.some.inj h).symm⟩
        rw [← hrest, List.takeWhile_append_dropWhile, List.takeWhile_append_dropWhile]
      · cases h
  · rintro ⟨blank, word, blanks, rest, rfl, hblank, hword, hblanks, rfl⟩
    obtain ⟨hdrop, htake⟩ := dropWhile_isWordChar_blanks hblanks rest
    rw [typeHere?, List.dropWhile_append_of_pos hword, hdrop,
      List.dropWhile_append_of_pos hblanks, List.takeWhile_append_of_pos hword, htake]
    simp [hblank, not_isBlank_brace]

/-- Before a brace that a word stands before, no place in front of the word's blank is that of a
type. -/
theorem head?_dropWhile_ne {front : List Char} (hfront : '\x7b' ∉ front) {blank first : Char}
    (hblank : isBlank blank = true) (hfirst : isBlank first = false) (hbrace : first ≠ '\x7b')
    (rest : List Char) :
    (((front ++ blank :: first :: rest).dropWhile isWordChar).dropWhile isBlank).head? ≠
      some '\x7b' := by
  have hlast : ((blank :: first :: rest).dropWhile isBlank).head? ≠ some '\x7b' := by
    simpa [hblank, hfirst] using hbrace
  -- what is left of the front after both kinds are dropped begins with none of its braces
  rw [List.dropWhile_append]
  split
  · simpa [not_isWordChar_of_isBlank hblank] using hlast
  · rw [List.dropWhile_append]
    split
    · exact hlast
    · rename_i hleft
      intro hhead
      cases hrest : (front.dropWhile isWordChar).dropWhile isBlank with
      | nil => simp [hrest] at hleft
      | cons c cs =>
        rw [hrest] at hhead
        obtain rfl : c = '\x7b' := by simpa using hhead
        have hmem : '\x7b' ∈ (front.dropWhile isWordChar).dropWhile isBlank := by simp [hrest]
        exact hfront ((List.dropWhile_suffix _).subset ((List.dropWhile_suffix _).subset hmem))

/-- **The first brace decides on the type**: the word before it, if a blank stands in front of the
word, whatever comes before that and after the brace. -/
theorem typeName?_append {front word blanks : List Char} (hfront : '\x7b' ∉ front) {blank : Char}
    (hblank : isBlank blank = true) (hword : ∀ c ∈ word, isWordChar c = true) (hne : word ≠ [])
    (hblanks : ∀ c ∈ blanks, isBlank c = true) (rest : List Char) :
    typeName? (front ++ blank :: (word ++ (blanks ++ '\x7b' :: rest))) =
      some (String.ofList word) := by
  induction front with
  | nil =>
    have hhere := typeHere?_eq_some_iff.mpr ⟨blank, word, blanks, rest, rfl, hblank, hword,
      hblanks, rfl⟩
    rw [List.nil_append, typeName?, hhere]
  | cons c cs ih =>
    obtain ⟨first, more, rfl⟩ := List.exists_cons_of_ne_nil hne
    have hfirst := hword first List.mem_cons_self
    have hbrace : first ≠ '\x7b' := by
      rintro rfl
      rw [not_isWordChar_brace] at hfirst
      cases hfirst
    have hfront' : '\x7b' ∉ cs := fun h => hfront (List.mem_cons_of_mem _ h)
    have hhead := head?_dropWhile_ne hfront' hblank (not_isBlank_of_isWordChar hfirst) hbrace
      (more ++ (blanks ++ '\x7b' :: rest))
    have hhere : typeHere? (c :: (cs ++ blank :: (first :: more ++ (blanks ++ '\x7b' :: rest)))) =
        none := by
      rw [typeHere?, if_neg]
      intro h
      exact hhead (beq_iff_eq.mp (Bool.and_eq_true_iff.mp h).2)
    rw [List.cons_append, typeName?, hhere]
    exact ih hfront'

end SeriesSchema.SeparatedWord
