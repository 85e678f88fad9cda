import SeriesSchema.Extractor
import SeriesSchema.Proofs.FirstDeclaration

/-!
# Extracted names

What can stand in the names that an extractor reads from a source text, whatever the text.

The declaration reader takes every name from a word of the text, each word once at most and in
order: the names are a sublist of the words (`Declaration.sublist_words_of_read?`).  The words hold
identifier characters only, by an invariant of the scan.  The search by pattern takes runs of word
characters.  Neither class has a bracket, a quote, a separator, a line end, a slash or a full stop,
so none of these is ever in a name (`Extractor.not_mem_name`).
-/

namespace SeriesSchema

open Text

/-! ## 1. The words among tokens -/

/-- The texts of the words among tokens, in order. -/
def words (ts : List Token) : List String :=
  ts.filterMap Token.text?

@[simp] theorem words_nil : words [] = [] := rfl

@[simp] theorem words_word (text : String) (ts : List Token) :
    words (.word text :: ts) = text :: words ts := rfl

@[simp] theorem words_append (s t : List Token) : words (s ++ t) = words s ++ words t :=
  List.filterMap_append

/-- Fewer tokens have fewer words. -/
theorem words_sublist {s t : List Token} (h : s.Sublist t) : (words s).Sublist (words t) :=
  h.filterMap _

theorem words_sublist_cons (t : Token) (ts : List Token) :
    (words ts).Sublist (words (t :: ts)) :=
  words_sublist (List.sublist_cons_self t ts)

/-- What a group holds and what follows it share no word. -/
theorem words_splitGroup (ts : List Token) :
    (words (splitGroup ts).1 ++ words (splitGroup ts).2).Sublist (words ts) := by
  rw [splitGroup]
  cases h : splitAtCloser 0 ts with
  | none =>
    have hpre : (dropLastCloser ts).Sublist ts := by
      rw [dropLastCloser]
      split
      · exact List.dropLast_sublist ts
      · exact .refl ts
    simpa using words_sublist hpre
  | some p =>
    obtain ⟨closer, -, heq⟩ := eq_append_of_splitAtCloser h
    rw [← words_append, heq]
    exact words_sublist (List.Sublist.append (.refl _) (List.sublist_cons_self _ _))

/-! ## 2. The names of declarators -/

/-- The declarators of a statement are among its words, and so is the word in hand.  The two readers
call each other, so that the induction is on the number of tokens left, for both at once. -/
theorem sublist_words_of_declarators (n : Nat) :
    (∀ last depth ts names, ts.length ≤ n → declarators last depth ts = some names →
      names.Sublist (last.toList ++ words ts)) ∧
    (∀ ts names, ts.length ≤ n → declaratorsAfterValue ts = some names →
      names.Sublist (words ts)) := by
  induction n with
  | zero =>
    refine ⟨fun last depth ts names hn h => ?_, fun ts names hn h => ?_⟩
    · obtain rfl : ts = [] := List.eq_nil_of_length_eq_zero (by omega)
      rw [declarators] at h
      simp [← Option.some.inj h]
    · obtain rfl : ts = [] := List.eq_nil_of_length_eq_zero (by omega)
      rw [declaratorsAfterValue] at h
      simp [← Option.some.inj h]
  | succ n ih =>
    obtain ⟨hdeclarators, hvalue⟩ := ih
    have skip : ∀ {last : Option String} {t : Token} {ts : List Token} {names : List String},
        names.Sublist (last.toList ++ words ts) → names.Sublist (last.toList ++ words (t :: ts)) :=
      fun h => h.trans (List.Sublist.append (.refl _) (words_sublist_cons _ _))
    refine ⟨fun last depth ts names hn h => ?_, fun ts names hn h => ?_⟩
    · rw [declarators.eq_def] at h
      split at h
      · simp [← Option.some.inj h]
      · rename_i text ts
        have hlen : ts.length ≤ n := by simpa using hn
        split at h
        · cases h
        · have := hdeclarators _ _ _ _ hlen h
          exact this.trans (by simp)
      · rename_i ts
        have hlen : (annotationRest ts).length ≤ n := by
          have := length_annotationRest_le ts
          rw [List.length_cons] at hn
          omega
        have := hdeclarators _ _ _ _ hlen h
        exact skip (this.trans (List.Sublist.append (.refl _)
          (words_sublist (annotationRest_suffix ts).sublist)))
      · cases h
      · exact skip (hdeclarators _ _ _ _ (by simpa using hn) h)
      · exact skip (hdeclarators _ _ _ _ (by simpa using hn) h)
      · rename_i ts
        have hlen : ts.length ≤ n := by simpa using hn
        split at h
        · obtain ⟨more, hmore, rfl⟩ := Option.map_eq_some_iff.mp h
          have := hdeclarators _ _ _ _ hlen hmore
          exact skip (List.Sublist.append (.refl _) this)
        · exact skip (hdeclarators _ _ _ _ hlen h)
      · rename_i ts
        have hlen : ts.length ≤ n := by simpa using hn
        split at h
        · obtain ⟨more, hmore, rfl⟩ := Option.map_eq_some_iff.mp h
          have := hvalue _ _ hlen hmore
          exact skip (List.Sublist.append (.refl _) this)
        · exact skip (hdeclarators _ _ _ _ hlen h)
      · exact skip (hdeclarators _ _ _ _ (by simpa using hn) h)
    · rw [declaratorsAfterValue.eq_def] at h
      split at h
      · simp [← Option.some.inj h]
      · rename_i ts
        have hlen : ts.length ≤ n := by simpa using hn
        exact (hdeclarators _ _ _ _ hlen h).trans (words_sublist_cons _ _)
      · exact (hvalue _ _ (by simpa using hn) h).trans (words_sublist_cons _ _)

theorem declaratorNames_sublist (statement : List Token) :
    (declaratorNames statement).Sublist (words statement) := by
  rw [declaratorNames]
  cases h : declarators none 0 statement with
  | none => exact List.nil_sublist _
  | some names =>
    exact (sublist_words_of_declarators statement.length).1 none 0 statement names (Nat.le_refl _) h

/-! ## 3. The names of a declaration -/

theorem argumentsRest_suffix (ts : List Token) : argumentsRest ts <:+ ts := by
  rw [argumentsRest.eq_def]
  split
  · exact (groupRest_suffix _).trans (List.suffix_cons _ _)
  · exact List.suffix_rfl

theorem bodyRest_suffix (ts : List Token) : bodyRest ts <:+ ts := by
  rw [bodyRest.eq_def]
  split
  · exact (groupRest_suffix _).trans (List.suffix_cons _ _)
  · exact List.suffix_rfl

theorem constantNames_sublist (body : List Token) :
    (constantNames body).Sublist (words body) := by
  fun_induction constantNames body with
  | case1 => exact List.nil_sublist _
  | case2 ts ih =>
    exact (ih.trans (words_sublist (annotationRest_suffix ts).sublist)).trans
      (words_sublist_cons _ _)
  | case3 => exact List.nil_sublist _
  | case4 name ts ih =>
    have hrest := (bodyRest_suffix (argumentsRest ts)).trans (argumentsRest_suffix ts)
    exact (ih.trans (words_sublist hrest.sublist)).cons_cons name
  | case5 t ts _ _ _ ih => exact ih.trans (words_sublist_cons _ _)

/-- The fields of a body are among the words of the statement under way and of the tokens left. -/
theorem memberFieldsFrom_sublist (pending : Array Token) (ts : List Token) :
    (memberFieldsFrom pending ts).Sublist (words pending.toList ++ words ts) := by
  have push : ∀ (t : Token) {rest ts : List Token} (pending : Array Token), rest <:+ ts →
      (words (pending.push t).toList ++ words rest).Sublist
        (words pending.toList ++ words (t :: ts)) := by
    intro t rest ts pending hrest
    rw [Array.toList_push, words_append, List.append_assoc, ← words_append]
    exact List.Sublist.append (.refl _) (words_sublist (hrest.sublist.cons_cons t))
  fun_induction memberFieldsFrom pending ts with
  | case1 pending => exact List.nil_sublist _
  | case2 pending ts ih =>
    exact ih.trans (List.Sublist.append (.refl _)
      ((words_sublist (annotationRest_suffix ts).sublist).trans (words_sublist_cons _ _)))
  | case3 pending ts ih =>
    refine ih.trans ?_
    have hrest := (words_sublist (groupRest_suffix ts).sublist).trans
      (words_sublist_cons (.sign '\x7b') ts)
    split
    · rw [Array.toList_push, words_append]
      exact List.Sublist.append (by simp [words, Token.text?]) hrest
    · exact List.Sublist.append (List.nil_sublist _) hrest
  | case4 pending ts ih => exact ih.trans (push _ pending (groupRest_suffix ts))
  | case5 pending ts ih => exact ih.trans (push _ pending (groupRest_suffix ts))
  | case6 pending ts ih =>
    exact List.Sublist.append (declaratorNames_sublist _) (ih.trans (words_sublist_cons _ _))
  | case7 pending t ts _ _ _ _ _ ih => exact ih.trans (push t pending List.suffix_rfl)

theorem afterSign?_suffix {c : Char} {ts rest : List Token} (h : afterSign? c ts = some rest) :
    rest <:+ ts := by
  induction ts with
  | nil => cases h
  | cons t ts ih =>
    rw [afterSign?] at h
    split at h
    · obtain rfl := Option.some.inj h
      exact List.suffix_cons t ts
    · exact (ih h).trans (List.suffix_cons t ts)

namespace Declaration

theorem bodyFields_sublist (kind : Kind) (body : List Token) :
    (bodyFields kind body).Sublist (words body) := by
  cases kind with
  | classType => exact memberFieldsFrom_sublist #[] body
  | enumType => exact constantNames_sublist body
  | recordType => exact memberFieldsFrom_sublist #[] body
  | interfaceType => exact List.nil_sublist _

/-- The components of a record and the tokens after their list share no word. -/
theorem components_sublist (d : Declaration) :
    (d.components.1 ++ words d.components.2).Sublist (words d.tokens) := by
  rw [components]
  split
  · rename_i ts _ hts
    have hnames := declaratorNames_sublist (splitGroup ts).1
    exact ((hnames.append (.refl _)).trans (words_splitGroup ts)).trans
      (words_sublist (afterSign?_suffix hts).sublist)
  · exact .refl _

theorem fields_sublist (d : Declaration) : d.fields.Sublist (words d.tokens) := by
  rw [fields]
  refine (List.Sublist.append (.refl _) ?_).trans (components_sublist d)
  split
  · rename_i ts hts
    have hinner := splitGroup_prefix ts
    exact ((bodyFields_sublist d.kind _).trans (words_sublist hinner.sublist)).trans
      (words_sublist (afterSign?_suffix hts).sublist)
  · exact List.nil_sublist _

/-- **The names of a definition are words of its source**, in order and none twice. -/
theorem sublist_words_of_read? {source : String} {d : Definition} (h : read? source = some d) :
    (d.name :: d.fields).Sublist (words (tokenize source)) := by
  rw [read?] at h
  obtain ⟨declaration, hfirst, rfl⟩ := Option.map_eq_some_iff.mp h
  obtain ⟨before, ⟨-, keyword, -, heq⟩, -⟩ := first?_eq_some_iff.mp hfirst
  rw [heq, words_append, words_word, words_word]
  exact List.sublist_append_of_sublist_right
    (((fields_sublist declaration).cons_cons declaration.name).cons keyword)

end Declaration

/-! ## 4. The characters of words -/

/-- A word token is a run of identifier characters and not empty. -/
def Token.IsRun (t : Token) : Prop :=
  ∀ text, t = .word text → text ≠ "" ∧ ∀ c ∈ text.toList, isIdentifierChar c = true

/-- What a mode has read of a word is such a run. -/
def Mode.IsRun (m : Mode) : Prop :=
  ∀ text, m = .word text → (Token.word text).IsRun

namespace Mode

theorem isRun_start (c : Char) : (start c).1.IsRun ∧ ∀ t ∈ (start c).2, t.IsRun := by
  unfold start
  split
  · simp [IsRun]
  split
  · simp [IsRun]
  split
  · simp [IsRun]
  split
  · simp [IsRun]
  split
  · rename_i hc
    refine ⟨fun text htext => ?_, by simp⟩
    obtain rfl : String.singleton c = text := by simpa using htext
    rintro text ⟨⟩
    simp [hc]
  · simp [IsRun, Token.IsRun]

theorem isRun_finish {m : Mode} (h : m.IsRun) : ∀ t ∈ m.finish, t.IsRun := by
  cases m with
  | word text => simpa [finish] using h text rfl
  | _ => simp [finish, Token.IsRun]

theorem isRun_leave {m : Mode} (h : m.IsRun) (c : Char) :
    (m.leave c).1.IsRun ∧ ∀ t ∈ (m.leave c).2, t.IsRun := by
  obtain ⟨hmode, htokens⟩ := isRun_start c
  refine ⟨hmode, fun t ht => ?_⟩
  rcases List.mem_append.mp ht with ht | ht
  · exact isRun_finish h t ht
  · exact htokens t ht

theorem isRun_inside (delimiter c : Char) :
    (inside delimiter c).1.IsRun ∧ ∀ t ∈ (inside delimiter c).2, t.IsRun := by
  unfold inside
  split <;> simp [IsRun, Token.IsRun]

/-- One character lengthens the run in hand, or leaves it. -/
theorem isRun_step {m : Mode} (h : m.IsRun) (c : Char) :
    (m.step c).1.IsRun ∧ ∀ t ∈ (m.step c).2, t.IsRun := by
  unfold step
  split
  · exact isRun_start c
  · rename_i text
    split
    · rename_i hc
      refine ⟨fun text' htext' => ?_, by simp⟩
      obtain rfl : text.push c = text' := by simpa using htext'
      rintro text' ⟨⟩
      refine ⟨by simp, fun c' hc' => ?_⟩
      rw [String.toList_push] at hc'
      rcases List.mem_append.mp hc' with hc' | hc'
      · exact (h text rfl text rfl).2 c' hc'
      · rw [List.mem_singleton.mp hc']
        exact hc
    · exact isRun_leave h c
  · split
    · simp [IsRun]
    · split
      · simp [IsRun]
      · exact isRun_leave h c
  · split <;> simp [IsRun]
  · split <;> simp [IsRun]
  · split
    · simp [IsRun]
    · exact isRun_inside '"' c
  · split
    · simp [IsRun]
    · exact isRun_leave h c
  · simp [IsRun]
  · exact isRun_inside _ c
  · simp [IsRun]
  · split
    · split <;> simp [IsRun, Token.IsRun]
    · simp [IsRun]

/-- **The tokens that a scan completes hold words that are runs**: the mode carries the fact from
one character to the next. -/
theorem isRun_emits {m : Mode} (h : m.IsRun) (text : List Char) :
    (m.after text).IsRun ∧ ∀ t ∈ m.emits text, t.IsRun := by
  induction text generalizing m with
  | nil => exact ⟨h, by simp⟩
  | cons c cs ih =>
    obtain ⟨hmode, htokens⟩ := isRun_step h c
    obtain ⟨hafter, hmore⟩ := ih hmode
    refine ⟨hafter, fun t ht => ?_⟩
    rcases List.mem_append.mp ht with ht | ht
    · exact htokens t ht
    · exact hmore t ht

end Mode

theorem isRun_of_mem_tokenize {source : String} {t : Token} (h : t ∈ tokenize source) :
    t.IsRun := by
  have hbetween : Mode.between.IsRun := by simp [Mode.IsRun]
  obtain ⟨hafter, hemits⟩ := Mode.isRun_emits hbetween source.toList
  rw [tokenize_eq] at h
  rcases List.mem_append.mp h with h | h
  · exact hemits t h
  · exact Mode.isRun_finish hafter t h

/-- The words of a text are not empty and consist of identifier characters. -/
theorem run_of_mem_words {source text : String} (h : text ∈ words (tokenize source)) :
    text ≠ "" ∧ ∀ c ∈ text.toList, isIdentifierChar c = true := by
  obtain ⟨t, hmem, htext⟩ := List.mem_filterMap.mp h
  cases t with
  | word text' =>
    obtain rfl : text' = text := by simpa [Token.text?] using htext
    exact isRun_of_mem_tokenize hmem text' rfl
  | sign c => cases htext
  | literal => cases htext

/-! ## 5. The characters of names -/

namespace SeparatedWord

/-- Runs of word characters consist of word characters. -/
theorem isWordChar_of_mem_takeWhile (text : List Char) :
    ∀ c ∈ (String.ofList (text.takeWhile isWordChar)).toList, isWordChar c = true := by
  intro c hc
  rw [String.toList_ofList] at hc
  exact List.all_eq_true.mp List.all_takeWhile c hc

theorem isWordChar_of_fieldHere? {text rest : List Char} {name : String}
    (h : fieldHere? text = some (name, rest)) : ∀ c ∈ name.toList, isWordChar c = true := by
  unfold fieldHere? at h
  split at h
  · cases h
  · rename_i b cs
    split at h
    · split at h
      · split at h
        · obtain ⟨rfl, -⟩ : String.ofList (cs.takeWhile isWordChar) = name ∧ _ := by simpa using h
          exact isWordChar_of_mem_takeWhile cs
        · cases h
      · cases h
    · cases h

/-- The fields found by pattern consist of word characters. -/
theorem isWordChar_of_mem_fields {text : List Char} {name : String} (h : name ∈ fields text) :
    ∀ c ∈ name.toList, isWordChar c = true := by
  fun_induction fields text with
  | case1 text first rest hfirst ih =>
    rcases List.mem_cons.mp h with rfl | h
    · exact isWordChar_of_fieldHere? hfirst
    · exact ih h
  | case2 => cases h
  | case3 c cs _ ih => exact ih h

/-- The type found by pattern consists of word characters. -/
theorem isWordChar_of_typeName? {text : List Char} {name : String}
    (h : typeName? text = some name) : ∀ c ∈ name.toList, isWordChar c = true := by
  induction text with
  | nil => cases h
  | cons b cs ih =>
    rw [typeName?] at h
    split at h
    · rename_i first hfirst
      obtain rfl := Option.some.inj h
      rw [typeHere?] at hfirst
      split at hfirst
      · obtain rfl := Option.some.inj hfirst
        exact isWordChar_of_mem_takeWhile _
      · cases hfirst
    · exact ih h

end SeparatedWord

namespace Extractor

/-- The characters that names may hold. -/
def allows : Extractor → Char → Bool
  | pattern => isWordChar
  | declaration => isIdentifierChar

/-- **The names of a definition consist of the characters of words**, whatever the source holds. -/
theorem allows_of_extract? {e : Extractor} {source : String} {d : Definition}
    (h : e.extract? source = some d) {name : String} (hname : name ∈ d.name :: d.fields) :
    ∀ c ∈ name.toList, e.allows c = true := by
  cases e with
  | pattern =>
    obtain ⟨type, htype, rfl⟩ := Option.map_eq_some_iff.mp h
    rcases List.mem_cons.mp hname with rfl | hname
    · exact SeparatedWord.isWordChar_of_typeName? htype
    · exact SeparatedWord.isWordChar_of_mem_fields hname
  | declaration =>
    have hmem := (Declaration.sublist_words_of_read? h).subset hname
    exact (run_of_mem_words hmem).2

/-- No name may hold an ASCII character that is no letter, no digit, no `_` and no `$`. -/
theorem allows_eq_false (e : Extractor) {c : Char} (hascii : c.toNat < 128)
    (hc : (c.isAlphanum || c == '_' || c == '$') = false) : e.allows c = false := by
  obtain ⟨hidentifier, hword⟩ := word_classes_of_ascii hascii
  cases e with
  | pattern =>
    rw [Bool.or_eq_false_iff] at hc
    rw [allows, hword, hc.1]
  | declaration => rw [allows, hidentifier, hc]

/-- An ASCII character that is no letter, no digit, no `_` and no `$` stands in no name. -/
theorem not_mem_name {e : Extractor} {source : String} {d : Definition}
    (h : e.extract? source = some d) {name : String} (hname : name ∈ d.name :: d.fields) {c : Char}
    (hascii : c.toNat < 128) (hc : (c.isAlphanum || c == '_' || c == '$') = false) :
    c ∉ name.toList := by
  intro hmem
  have hallows := allows_of_extract? h hname c hmem
  rw [allows_eq_false e hascii hc] at hallows
  cases hallows

end Extractor

end SeriesSchema
