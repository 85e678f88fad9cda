import SeriesSchema.Proofs.DeclaredFields
import SeriesSchema.Proofs.Member

/-!
# The fields of a class body

A body that follows the grammar of members is read exactly: the fields found are the declared names
of its field statements that are not static, in order.

The reader keeps one current statement.  What carries the argument is that at the end of each member
the statement is empty again, whatever the member is.  Within a member the invariant is what has
been *kept*: groups leave their bracket, annotations leave nothing, and a brace group leaves a
literal if an `=` was kept before it.  `Leaves` states this for all that stands before an `=`, and
`outline` is what is kept of a value.

1. what the reader keeps of a piece of a statement;
2. what the search for declarators makes of what was kept;
3. types and modifiers;
4. values and declarators;
5. members, bodies and sources.
-/

namespace SeriesSchema

/-! ## 1. Reading a piece of a statement -/

section Reading

variable (pending : List Token) {ts : List Token}

theorem memberFieldsFrom_annotated {a : AnnotationForm} (h : a.EndsBefore ts) :
    memberFieldsFrom pending.toArray (a.tokens ++ ts) = memberFieldsFrom pending.toArray ts := by
  rw [AnnotationForm.tokens, List.cons_append, memberFieldsFrom, annotationRest_tokens h]

/-- Of a group in parentheses or brackets the reader keeps the bracket that opens it. -/
theorem memberFieldsFrom_group {c : Char} {inner : List Token} {closer : Token}
    (hc : c = '(' ∨ c = '[') (h : Nested inner) (hclose : closer.isCloser = true) :
    memberFieldsFrom pending.toArray (.sign c :: (inner ++ closer :: ts)) =
      memberFieldsFrom (pending ++ [Token.sign c]).toArray ts := by
  rcases hc with rfl | rfl
  · rw [memberFieldsFrom, groupRest_of_nested h hclose]
    simp
  · rw [memberFieldsFrom, groupRest_of_nested h hclose]
    simp

/-- Without an `=` a brace group is a body, and ends the statement. -/
theorem memberFieldsFrom_braces_of_not_mem {inner : List Token} {closer : Token} (h : Nested inner)
    (hclose : closer.isCloser = true) (heq : .sign '=' ∉ pending) :
    memberFieldsFrom pending.toArray (.sign '\x7b' :: (inner ++ closer :: ts)) =
      memberFieldsFrom #[] ts := by
  rw [memberFieldsFrom, groupRest_of_nested h hclose]
  simp [heq]

theorem memberFieldsFrom_semicolon :
    memberFieldsFrom pending.toArray (.sign ';' :: ts) =
      declaratorNames pending ++ memberFieldsFrom #[] ts := by
  rw [memberFieldsFrom]

theorem memberFieldsFrom_token {t : Token} (hopen : t.isOpener = false) (hat : t ≠ .sign '@')
    (hsemicolon : t ≠ .sign ';') :
    memberFieldsFrom pending.toArray (t :: ts) =
      memberFieldsFrom (pending ++ [t]).toArray ts := by
  have hparen : t ≠ .sign '(' := by rintro rfl; cases hopen
  have hbracket : t ≠ .sign '[' := by rintro rfl; cases hopen
  have hbrace : t ≠ .sign '\x7b' := by rintro rfl; cases hopen
  rw [memberFieldsFrom]
  · simp
  all_goals simp_all

end Reading

/-- Of the tokens `ts` the reader keeps `kept`, whatever it kept before and whatever follows. -/
def Leaves (ts kept : List Token) : Prop :=
  ∀ pending rest, annotationGoesOn rest = false →
    memberFieldsFrom (List.toArray pending) (ts ++ rest) =
      memberFieldsFrom (List.toArray (pending ++ kept)) rest

theorem Leaves.nil : Leaves [] [] := by
  intro pending rest _
  simp

theorem Leaves.append {s t ks kt : List Token} (hs : Leaves s ks) (ht : Leaves t kt)
    (hst : annotationGoesOn t = false) : Leaves (s ++ t) (ks ++ kt) := by
  intro pending rest hrest
  have hgo : annotationGoesOn (t ++ rest) = false := annotationGoesOn_append hst fun _ => hrest
  rw [List.append_assoc, hs pending (t ++ rest) hgo, ht (pending ++ ks) rest hrest,
    List.append_assoc]

theorem Leaves.annotated {a : AnnotationForm} {ts kept : List Token} (hend : a.EndsBefore ts)
    (h : Leaves ts kept) : Leaves (a.tokens ++ ts) kept := by
  intro pending rest hrest
  rw [List.append_assoc, memberFieldsFrom_annotated pending (hend.append hrest)]
  exact h pending rest hrest

theorem Leaves.token {t : Token} {ts kept : List Token} (hopen : t.isOpener = false)
    (hat : t ≠ .sign '@') (hsemicolon : t ≠ .sign ';') (h : Leaves ts kept) :
    Leaves (t :: ts) (t :: kept) := by
  intro pending rest hrest
  rw [List.cons_append, memberFieldsFrom_token pending hopen hat hsemicolon,
    h (pending ++ [t]) rest hrest]
  simp

theorem Leaves.group {c closer : Char} {inner ts kept : List Token} (hc : c = '(' ∨ c = '[')
    (hclose : (Token.sign closer).isCloser = true) (hinner : Nested inner) (h : Leaves ts kept) :
    Leaves (.sign c :: (inner ++ .sign closer :: ts)) (.sign c :: kept) := by
  intro pending rest hrest
  rw [List.cons_append, List.append_assoc, List.cons_append,
    memberFieldsFrom_group pending hc hinner hclose, h (pending ++ [Token.sign c]) rest hrest]
  simp

/-! ## 2. Searching what was kept -/

/-- In `kept` nothing is declared and nothing taken back.  With `list` this is so between angle
brackets, where commas separate the arguments of a type. -/
def Quiet (list : Bool) (kept : List Token) : Prop :=
  ∀ last depth rest, (list = true → 0 < depth) →
    ∃ last', declarators last depth (kept ++ rest) = declarators last' depth rest

theorem Quiet.nil {list : Bool} : Quiet list [] :=
  fun last _ _ _ => ⟨last, rfl⟩

theorem Quiet.word {list : Bool} {text : String} {kept : List Token} (hstatic : text ≠ "static")
    (h : Quiet list kept) : Quiet list (.word text :: kept) := by
  intro last depth rest hdepth
  obtain ⟨last', heq⟩ := h (some text) depth rest hdepth
  refine ⟨last', ?_⟩
  rw [List.cons_append, declarators, if_neg hstatic, heq]

/-- Signs without a meaning of their own are passed over. -/
theorem Quiet.sign {list : Bool} {c : Char} {kept : List Token}
    (hc : c = '.' ∨ c = '?' ∨ c = '&' ∨ c = '[') (h : Quiet list kept) :
    Quiet list (.sign c :: kept) := by
  intro last depth rest hdepth
  obtain ⟨last', heq⟩ := h last depth rest hdepth
  refine ⟨last', ?_⟩
  rcases hc with rfl | rfl | rfl | rfl <;> simpa [declarators] using heq

theorem Quiet.comma {kept : List Token} (h : Quiet true kept) :
    Quiet true (.sign ',' :: kept) := by
  intro last depth rest hdepth
  obtain ⟨last', heq⟩ := h last depth rest hdepth
  refine ⟨last', ?_⟩
  rw [List.cons_append, declarators, if_neg (Nat.ne_of_gt (hdepth rfl)), heq]

theorem Quiet.arguments {list : Bool} {inner kept : List Token} (hinner : Quiet true inner)
    (h : Quiet list kept) : Quiet list (.sign '<' :: (inner ++ .sign '>' :: kept)) := by
  intro last depth rest hdepth
  obtain ⟨last₁, heq₁⟩ := hinner last (depth + 1) (.sign '>' :: (kept ++ rest)) fun _ =>
    Nat.succ_pos depth
  obtain ⟨last₂, heq₂⟩ := h last₁ depth rest hdepth
  refine ⟨last₂, ?_⟩
  rw [List.cons_append, List.append_assoc, List.cons_append, declarators, heq₁, declarators,
    Nat.add_sub_cancel, heq₂]

/-- A step of the search gives nothing if the search gives nothing behind it, in whatever state it
goes on. -/
theorem declarators_cons_eq_none {t : Token} {ts : List Token} (hat : t ≠ .sign '@')
    (h : ∀ last depth, declarators last depth ts = none)
    (hvalue : t = .sign '=' → declaratorsAfterValue ts = none) (last : Option String)
    (depth : Nat) : declarators last depth (t :: ts) = none := by
  rw [declarators.eq_def]
  split
  · rename_i hcons
    cases hcons
  · rename_i hcons
    obtain ⟨rfl, rfl⟩ := List.cons.inj hcons
    split
    · rfl
    · exact h _ _
  · rename_i hcons
    exact absurd (List.cons.inj hcons).1 hat
  · rfl
  · rename_i hcons
    rw [← (List.cons.inj hcons).2]
    exact h _ _
  · rename_i hcons
    rw [← (List.cons.inj hcons).2]
    exact h _ _
  · rename_i hcons
    rw [← (List.cons.inj hcons).2, h, h, Option.map_none, ite_self]
  · rename_i hcons
    obtain ⟨rfl, rfl⟩ := List.cons.inj hcons
    rw [hvalue rfl, h, Option.map_none, ite_self]
  · rename_i hcons
    rw [← (List.cons.inj hcons).2]
    exact h _ _

/-- **A parenthesis outside every value takes the statement back.** -/
theorem declarators_eq_none {kept : List Token} (hparen : .sign '(' ∈ kept)
    (heq : .sign '=' ∉ kept) (hat : .sign '@' ∉ kept) (rest : List Token) (last : Option String)
    (depth : Nat) : declarators last depth (kept ++ rest) = none := by
  induction kept generalizing last depth with
  | nil => cases hparen
  | cons t kept ih =>
    by_cases ht : t = .sign '('
    · rw [ht, List.cons_append, declarators]
    · have hkept : .sign '(' ∈ kept := (List.mem_cons.mp hparen).resolve_left fun h => ht h.symm
      have ih' := ih hkept (fun h => heq (List.mem_cons_of_mem _ h))
        fun h => hat (List.mem_cons_of_mem _ h)
      exact declarators_cons_eq_none (fun h => hat (h ▸ List.mem_cons_self)) ih'
        (fun h => absurd (h ▸ List.mem_cons_self) heq) last depth

/-! ## 3. Types and modifiers -/

/-- **A type declares nothing.** -/
theorem TypeTokens.leaves {list : Bool} {ts : List Token} (h : TypeTokens list ts) :
    ∃ kept, Leaves ts kept ∧ Quiet list kept := by
  induction h with
  | nil => exact ⟨[], .nil, .nil⟩
  | word hstatic _ ih =>
    obtain ⟨kept, hleaves, hquiet⟩ := ih
    exact ⟨_, hleaves.token rfl (by simp) (by simp), hquiet.word hstatic⟩
  | sign hc _ ih =>
    obtain ⟨kept, hleaves, hquiet⟩ := ih
    rcases hc with rfl | rfl | rfl <;>
      exact ⟨_, hleaves.token rfl (by simp) (by simp), hquiet.sign (by simp)⟩
  | comma _ ih =>
    obtain ⟨kept, hleaves, hquiet⟩ := ih
    exact ⟨_, hleaves.token rfl (by simp) (by simp), hquiet.comma⟩
  | annotated hend _ ih =>
    obtain ⟨kept, hleaves, hquiet⟩ := ih
    exact ⟨kept, hleaves.annotated hend, hquiet⟩
  | brackets hinner _ ih =>
    obtain ⟨kept, hleaves, hquiet⟩ := ih
    exact ⟨_, hleaves.group (Or.inr rfl) rfl hinner, hquiet.sign (by simp)⟩
  | arguments _ _ ihinner ihts =>
    obtain ⟨kinner, hinner, hqinner⟩ := ihinner
    obtain ⟨kts, hts, hqts⟩ := ihts
    have hall := hinner.append (hts.token (t := .sign '>') rfl (by simp) (by simp))
      (annotationGoesOn_cons (by simp) (by simp) _)
    exact ⟨_, hall.token rfl (by simp) (by simp), hqinner.arguments hqts⟩

/-- What the reader keeps of a modifier. -/
def Modifier.kept? : Modifier → Option Token
  | word text => some (.word text)
  | annotated _ => none

/-- Neither modifiers nor the type after them are read as more of an annotation before them. -/
theorem annotationGoesOn_modifiers {type : List Token} (ms : List Modifier)
    (h : annotationGoesOn type = false) :
    annotationGoesOn (ms.flatMap Modifier.tokens ++ type) = false := by
  cases ms with
  | nil => exact h
  | cons m ms =>
    cases m with
    | word text => exact annotationGoesOn_cons (by simp) (by simp) _
    | annotated a => exact annotationGoesOn_cons (by simp) (by simp) _

theorem leaves_modifiers {type kept : List Token} (ms : List Modifier)
    (hstart : annotationGoesOn type = false) (h : Leaves type kept) :
    Leaves (ms.flatMap Modifier.tokens ++ type) (ms.filterMap Modifier.kept? ++ kept) := by
  induction ms with
  | nil => exact h
  | cons m ms ih =>
    cases m with
    | word text => exact ih.token rfl (by simp) (by simp)
    | annotated a =>
      rw [List.flatMap_cons, Modifier.tokens, List.append_assoc]
      exact ih.annotated fun _ => annotationGoesOn_modifiers ms hstart

theorem quiet_modifiers {ms : List Modifier} (h : ms.any Modifier.isStatic = false) :
    Quiet false (ms.filterMap Modifier.kept?) := by
  induction ms with
  | nil => exact .nil
  | cons m ms ih =>
    rw [List.any_cons, Bool.or_eq_false_iff] at h
    cases m with
    | word text =>
      have hne : text ≠ "static" := by simpa [Modifier.isStatic] using h.1
      exact (ih h.2).word hne
    | annotated a => exact ih h.2

/-- **The modifier `static` takes the statement back.** -/
theorem declarators_of_static {ms : List Modifier} (h : ms.any Modifier.isStatic = true)
    (last : Option String) (rest : List Token) :
    declarators last 0 (ms.filterMap Modifier.kept? ++ rest) = none := by
  induction ms generalizing last with
  | nil => simp at h
  | cons m ms ih =>
    rw [List.any_cons, Bool.or_eq_true] at h
    cases m with
    | word text =>
      simp only [List.filterMap_cons, Modifier.kept?, List.cons_append]
      rw [declarators]
      split
      · rfl
      · rename_i hne
        exact ih (h.resolve_left (by simpa [Modifier.isStatic] using hne)) _
    | annotated a =>
      simp only [List.filterMap_cons, Modifier.kept?]
      exact ih (h.resolve_left (by simp [Modifier.isStatic])) last

/-! ## 4. Values and declarators

An annotation in a value is skipped wherever it stands, so what is skipped has to be shown to lie
within the value.  It does because a value is followed by a comma or a semicolon, which ends names
and opens nothing. -/

/-- Whether tokens begin with what ends a declarator. -/
def EndsDeclarator (rest : List Token) : Prop :=
  ∃ t more, rest = t :: more ∧ (t = .sign ',' ∨ t = .sign ';')

theorem EndsDeclarator.not_goesOn {rest : List Token} (h : EndsDeclarator rest) :
    annotationGoesOn rest = false := by
  obtain ⟨t, more, rfl, rfl | rfl⟩ := h <;> exact annotationGoesOn_cons (by simp) (by simp) _

theorem ValueTokens.tail {t : Token} {ts : List Token} (h : ValueTokens (t :: ts))
    (hopen : t.isOpener = false) : ValueTokens ts := by
  cases h with
  | token _ _ _ _ hts => exact hts
  | group hopener => rw [hopen] at hopener; cases hopener

/-- What a group in a value takes up lies within the value. -/
theorem groupRest_value {t : Token} {ts : List Token} (h : ValueTokens (t :: ts))
    (hopen : t.isOpener = true) (rest : List Token) :
    ValueTokens (groupRest ts) ∧ groupRest (ts ++ rest) = groupRest ts ++ rest := by
  cases h with
  | token hnot => rw [hopen] at hnot; cases hnot
  | group _ hclose hinner hts =>
    rw [List.append_assoc, List.cons_append, groupRest_of_nested hinner hclose,
      groupRest_of_nested hinner hclose]
    exact ⟨hts, rfl⟩

/-- A value begins with no comma and no semicolon. -/
theorem ValueTokens.token_cases {t : Token} {ts : List Token} (h : ValueTokens (t :: ts))
    (hbrace : t ≠ .sign '\x7b') (hparen : t ≠ .sign '(') (hbracket : t ≠ .sign '[') :
    t.isOpener = false ∧ t ≠ .sign ',' ∧ t ≠ .sign ';' ∧ ValueTokens ts := by
  cases h with
  | token hopen _ hcomma hsemicolon hts => exact ⟨hopen, hcomma, hsemicolon, hts⟩
  | group hopen => cases t <;> simp_all [Token.isOpener]

theorem qualifiersRest_value {ts rest : List Token} (h : ValueTokens ts)
    (hrest : EndsDeclarator rest) :
    ValueTokens (qualifiersRest ts) ∧
      qualifiersRest (ts ++ rest) = qualifiersRest ts ++ rest := by
  fun_induction qualifiersRest ts with
  | case1 text ts ih =>
    rw [List.cons_append, List.cons_append, qualifiersRest]
    exact ih ((h.tail rfl).tail rfl)
  | case2 ts hnot =>
    refine ⟨h, ?_⟩
    rw [qualifiersRest.eq_def]
    split
    · rename_i text more heq
      obtain ⟨u, behind, rfl, hu⟩ := hrest
      rcases ts with _ | ⟨t, _ | ⟨next, ts⟩⟩
      · rcases hu with rfl | rfl <;> simp at heq
      · rcases hu with rfl | rfl <;> simp at heq
      · simp only [List.cons_append, List.cons.injEq] at heq
        exact absurd (by rw [heq.1, heq.2.1]) (hnot text ts)
    · rfl

theorem annotationNameRest_value {ts rest : List Token} (h : ValueTokens ts)
    (hrest : EndsDeclarator rest) :
    ValueTokens (annotationNameRest ts) ∧
      annotationNameRest (ts ++ rest) = annotationNameRest ts ++ rest := by
  rcases ts with _ | ⟨t, ts⟩
  · obtain ⟨u, behind, rfl, rfl | rfl⟩ := hrest <;> exact ⟨.nil, rfl⟩
  cases t with
  | word text => exact qualifiersRest_value (h.tail rfl) hrest
  | sign c => exact qualifiersRest_value h hrest
  | literal => exact qualifiersRest_value h hrest

/-- **What an annotation in a value takes up lies within the value.** -/
theorem annotationRest_value {ts rest : List Token} (h : ValueTokens ts)
    (hrest : EndsDeclarator rest) :
    ValueTokens (annotationRest ts) ∧
      annotationRest (ts ++ rest) = annotationRest ts ++ rest := by
  obtain ⟨hname, heq⟩ := annotationNameRest_value h hrest
  rw [annotationRest, annotationRest, heq]
  generalize annotationNameRest ts = after at hname ⊢
  rcases after with _ | ⟨t, ts⟩
  · obtain ⟨u, behind, rfl, rfl | rfl⟩ := hrest <;> exact ⟨.nil, rfl⟩
  cases t with
  | word text => exact ⟨hname, rfl⟩
  | literal => exact ⟨hname, rfl⟩
  | sign c =>
    by_cases hc : c = '('
    · subst hc
      exact groupRest_value hname rfl rest
    · split
      · rename_i heq
        simp [hc] at heq
      · split
        · rename_i heq
          simp [hc] at heq
        · exact ⟨hname, rfl⟩

/-- What the reader keeps of a value: what stands outside its groups and its annotations.  A group
leaves its bracket, and one in braces a literal. -/
def outline : List Token → List Token
  | [] => []
  | .sign '@' :: ts => outline (annotationRest ts)
  | .sign '\x7b' :: ts => .literal :: outline (groupRest ts)
  | .sign '(' :: ts => .sign '(' :: outline (groupRest ts)
  | .sign '[' :: ts => .sign '[' :: outline (groupRest ts)
  | t :: ts => t :: outline ts
termination_by ts => ts.length
decreasing_by
  all_goals simp_wf
  all_goals have := length_annotationRest_le ts
  all_goals have := length_groupRest_le ts
  all_goals omega

/-- **A value leaves its outline.** -/
theorem ValueTokens.leaves {ts rest : List Token} (h : ValueTokens ts)
    (hrest : EndsDeclarator rest) (pending : List Token) (heq : .sign '=' ∈ pending) :
    memberFieldsFrom pending.toArray (ts ++ rest) =
      memberFieldsFrom (pending ++ outline ts).toArray rest := by
  fun_induction outline ts generalizing pending with
  | case1 => simp
  | case2 ts ih =>
    obtain ⟨hts, hafter⟩ := annotationRest_value (h.tail rfl) hrest
    rw [List.cons_append, memberFieldsFrom, hafter, ih hts pending heq]
  | case3 ts ih =>
    obtain ⟨hts, hafter⟩ := groupRest_value h rfl rest
    have := ih hts (pending ++ [Token.literal]) (List.mem_append_left _ heq)
    rw [List.cons_append, memberFieldsFrom, hafter]
    simpa [heq] using this
  | case4 ts ih =>
    obtain ⟨hts, hafter⟩ := groupRest_value h rfl rest
    have := ih hts (pending ++ [Token.sign '(']) (List.mem_append_left _ heq)
    rw [List.cons_append, memberFieldsFrom, hafter]
    simpa using this
  | case5 ts ih =>
    obtain ⟨hts, hafter⟩ := groupRest_value h rfl rest
    have := ih hts (pending ++ [Token.sign '[']) (List.mem_append_left _ heq)
    rw [List.cons_append, memberFieldsFrom, hafter]
    simpa using this
  | case6 t ts hat hbrace hparen hbracket ih =>
    obtain ⟨hopen, -, hsemicolon, hts⟩ := h.token_cases hbrace hparen hbracket
    have := ih hts (pending ++ [t]) (List.mem_append_left _ heq)
    rw [List.cons_append, memberFieldsFrom_token pending hopen hat hsemicolon]
    simpa using this

/-- No comma stands in the outline of a value. -/
theorem ValueTokens.comma_not_mem {ts : List Token} (h : ValueTokens ts) :
    .sign ',' ∉ outline ts := by
  fun_induction outline ts with
  | case1 => simp
  | case2 ts ih => exact ih (annotationRest_value (h.tail rfl) ⟨_, [], rfl, Or.inr rfl⟩).1
  | case3 ts ih => simpa using ih (groupRest_value h rfl []).1
  | case4 ts ih => simpa using ih (groupRest_value h rfl []).1
  | case5 ts ih => simpa using ih (groupRest_value h rfl []).1
  | case6 t ts _ hbrace hparen hbracket ih =>
    obtain ⟨-, hcomma, -, hts⟩ := h.token_cases hbrace hparen hbracket
    simp [ih hts, Ne.symm hcomma]

/-- What the reader keeps of a value is passed over up to the next comma. -/
theorem declaratorsAfterValue_append {kept : List Token} (h : .sign ',' ∉ kept)
    (rest : List Token) :
    declaratorsAfterValue (kept ++ rest) = declaratorsAfterValue rest := by
  induction kept with
  | nil => rfl
  | cons t kept ih =>
    have ht : t ≠ .sign ',' := fun heq => h (by rw [heq]; exact List.mem_cons_self)
    rw [List.cons_append, declaratorsAfterValue, ih fun hmem => h (List.mem_cons_of_mem _ hmem)]
    exact ht

/-- Whether what was kept ends here, or goes on with a comma. -/
def AtComma (tail : List Token) : Prop :=
  tail = [] ∨ ∃ more, tail = .sign ',' :: more

namespace Declarator

/-- What the reader keeps of array brackets. -/
theorem leaves_sizes (sizes : List NestedTokens) :
    Leaves (sizeTokens sizes) (sizes.map fun _ => .sign '[') := by
  induction sizes with
  | nil => exact .nil
  | cons size sizes ih =>
    have := ih.group (c := '[') (Or.inr rfl) (rfl : (Token.sign ']').isCloser = true) size.2
    simpa [sizeTokens] using this

/-- Between the words after a name nothing is read but brackets, so the name stays. -/
theorem declarators_sizes (sizes : List NestedTokens) (last : Option String)
    (rest : List Token) :
    declarators last 0 ((sizes.map fun _ => .sign '[') ++ rest) = declarators last 0 rest := by
  induction sizes with
  | nil => rfl
  | cons size sizes ih => simpa [declarators] using ih

/-- What the reader keeps of a declarator. -/
def kept (d : Declarator) : List Token :=
  .word d.name :: ((d.sizes.map fun _ => .sign '[') ++
    match d.value with
    | none => []
    | some value => .sign '=' :: outline value.1)

theorem leaves (d : Declarator) (pending : List Token) {rest : List Token}
    (hrest : EndsDeclarator rest) :
    memberFieldsFrom pending.toArray (d.tokens ++ rest) =
      memberFieldsFrom (pending ++ d.kept).toArray rest := by
  obtain ⟨name, hname, sizes, value⟩ := d
  have hsizes : Leaves (.word name :: sizeTokens sizes)
      (.word name :: sizes.map fun _ => .sign '[') :=
    (leaves_sizes sizes).token rfl (by simp) (by simp)
  cases value with
  | none =>
    have := hsizes pending rest hrest.not_goesOn
    simpa [tokens, valueTokens, kept] using this
  | some value =>
    have hgo : annotationGoesOn (.sign '=' :: (value.1 ++ rest)) = false :=
      annotationGoesOn_cons (by simp) (by simp) _
    have := hsizes pending _ hgo
    rw [memberFieldsFrom_token _ rfl (by simp) (by simp), value.2.leaves hrest _ (by simp)] at this
    simpa [tokens, valueTokens, kept] using this

/-- **A declarator declares its name**, whether a comma follows or nothing. -/
theorem declarators_kept (d : Declarator) {tail : List Token} (htail : AtComma tail)
    (last : Option String) :
    declarators last 0 (d.kept ++ tail) = (declaratorsAfterValue tail).map (d.name :: ·) := by
  obtain ⟨name, hname, sizes, value⟩ := d
  rw [kept, List.cons_append, List.append_assoc, declarators, if_neg hname, declarators_sizes]
  cases value with
  | none =>
    obtain rfl | ⟨more, rfl⟩ := htail
    · simp [declarators, declaratorsAfterValue]
    · simp [declarators, declaratorsAfterValue]
  | some value =>
    rw [List.cons_append, declarators, if_pos rfl,
      declaratorsAfterValue_append value.2.comma_not_mem]
    rfl

end Declarator

/-- Declarators are read one after the other, and the commas between them are kept. -/
theorem leaves_separated {α : Type} {tokens kept : α → List Token}
    (h : ∀ a pending rest, EndsDeclarator rest →
      memberFieldsFrom (List.toArray pending) (tokens a ++ rest) =
        memberFieldsFrom (List.toArray (pending ++ kept a)) rest)
    (a : α) (more : List α) (pending : List Token) {rest : List Token}
    (hrest : EndsDeclarator rest) :
    memberFieldsFrom pending.toArray
        (tokens a ++ ((more.flatMap fun b => .sign ',' :: tokens b) ++ rest)) =
      memberFieldsFrom
        (pending ++ (kept a ++ more.flatMap fun b => .sign ',' :: kept b)).toArray rest := by
  induction more generalizing a pending with
  | nil => simpa using h a pending rest hrest
  | cons next more ih =>
    rw [List.flatMap_cons, List.append_assoc, List.cons_append,
      h a pending _ ⟨_, _, rfl, Or.inl rfl⟩,
      memberFieldsFrom_token _ rfl (by simp) (by simp), ih next]
    simp

/-- The declarators of a statement declare their names, in order. -/
theorem declarators_separated (d : Declarator) (more : List Declarator) (last : Option String) :
    declarators last 0 (d.kept ++ more.flatMap fun d => .sign ',' :: d.kept) =
      some ((d :: more).map Declarator.name) := by
  induction more generalizing d last with
  | nil =>
    rw [List.flatMap_nil, d.declarators_kept (Or.inl rfl), declaratorsAfterValue]
    rfl
  | cons next more ih =>
    rw [List.flatMap_cons, List.cons_append, d.declarators_kept (Or.inr ⟨_, rfl⟩),
      declaratorsAfterValue, ih]
    rfl

/-! ## 5. Statements, members and bodies -/

/-- A statement gives what the search finds in its declarators, behind any modifiers and any type;
but a static one gives nothing. -/
theorem memberFieldsFrom_statement (modifiers : List Modifier) {type ds kept : List Token}
    (htype : TypeTokens false type) (hstart : annotationGoesOn type = false)
    (hds : ∀ ts, annotationGoesOn (ds ++ ts) = false)
    (hread : ∀ pending rest, EndsDeclarator rest →
      memberFieldsFrom (List.toArray pending) (ds ++ rest) =
        memberFieldsFrom (List.toArray (pending ++ kept)) rest) :
    ∃ last, ∀ rest,
      memberFieldsFrom #[]
          (modifiers.flatMap Modifier.tokens ++ (type ++ (ds ++ .sign ';' :: rest))) =
        (if modifiers.any Modifier.isStatic then [] else (declarators last 0 kept).getD []) ++
          memberFieldsFrom #[] rest := by
  obtain ⟨ktype, hktype, hquiet⟩ := htype.leaves
  have hmodifiers := leaves_modifiers modifiers hstart hktype
  have hread' (rest : List Token) : memberFieldsFrom #[]
      (modifiers.flatMap Modifier.tokens ++ (type ++ (ds ++ .sign ';' :: rest))) =
        declaratorNames (modifiers.filterMap Modifier.kept? ++ (ktype ++ kept)) ++
          memberFieldsFrom #[] rest := by
    have := hmodifiers [] (ds ++ .sign ';' :: rest) (hds _)
    rw [hread _ _ ⟨_, _, rfl, Or.inr rfl⟩, memberFieldsFrom_semicolon] at this
    simpa using this
  by_cases hstatic : modifiers.any Modifier.isStatic = true
  · refine ⟨none, fun rest => ?_⟩
    rw [hread', if_pos hstatic, declaratorNames, declarators_of_static hstatic]
    rfl
  · obtain ⟨last, hlast⟩ := quiet_modifiers (by simpa using hstatic) none 0 (ktype ++ kept)
      (by simp)
    obtain ⟨last', hlast'⟩ := hquiet last 0 kept (by simp)
    refine ⟨last', fun rest => ?_⟩
    rw [hread', if_neg hstatic, declaratorNames, hlast, hlast']

/-- **A field statement is read exactly.** -/
theorem FieldStatement.reads (s : FieldStatement) (rest : List Token) :
    memberFieldsFrom #[] (s.tokens ++ rest) = s.names ++ memberFieldsFrom #[] rest := by
  have hread (pending rest : List Token) (hrest : EndsDeclarator rest) :
      memberFieldsFrom pending.toArray
          ((s.first.tokens ++ s.more.flatMap fun d => .sign ',' :: d.tokens) ++ rest) =
        memberFieldsFrom (pending ++
          (s.first.kept ++ s.more.flatMap fun d => .sign ',' :: d.kept)).toArray rest := by
    rw [List.append_assoc]
    exact leaves_separated (fun d pending _ h => d.leaves pending h) s.first s.more pending hrest
  obtain ⟨last, hlast⟩ := memberFieldsFrom_statement s.modifiers s.htype s.hstart
    (fun _ => annotationGoesOn_cons (by simp) (by simp) _) hread
  have := hlast rest
  rw [declarators_separated] at this
  simpa [tokens, names] using this

/-- Of a header no `=` is kept, and a list of parameters leaves its parenthesis. -/
theorem HeaderTokens.leaves {parameters : Bool} {ts : List Token}
    (h : HeaderTokens parameters ts) : ∃ kept, Leaves ts kept ∧ .sign '=' ∉ kept ∧
      .sign '@' ∉ kept ∧ (parameters = true → .sign '(' ∈ kept) := by
  induction h with
  | nil => exact ⟨[], .nil, by simp, by simp, by simp⟩
  | token hopen _ hat heq hsemicolon _ ih =>
    obtain ⟨kept, hleaves, hkeq, hkat, hparen⟩ := ih
    exact ⟨_, hleaves.token hopen hat hsemicolon, by simp [hkeq, Ne.symm heq],
      by simp [hkat, Ne.symm hat], fun hp => List.mem_cons_of_mem _ (hparen hp)⟩
  | annotated hend _ ih =>
    obtain ⟨kept, hleaves, hkeq, hkat, hparen⟩ := ih
    exact ⟨kept, hleaves.annotated hend, hkeq, hkat, hparen⟩
  | parameters hinner _ ih =>
    obtain ⟨kept, hleaves, hkeq, hkat, -⟩ := ih
    exact ⟨_, hleaves.group (Or.inl rfl) rfl hinner, by simp [hkeq], by simp [hkat], by simp⟩
  | brackets hinner _ ih =>
    obtain ⟨kept, hleaves, hkeq, hkat, hparen⟩ := ih
    exact ⟨_, hleaves.group (Or.inr rfl) rfl hinner, by simp [hkeq], by simp [hkat],
      fun hp => List.mem_cons_of_mem _ (hparen hp)⟩

/-- What stands before a body is dropped with the body. -/
theorem memberFieldsFrom_body {header kept : List Token} (h : Leaves header kept)
    (heq : .sign '=' ∉ kept) (body : NestedTokens) (rest : List Token) :
    memberFieldsFrom #[] (header ++ (Member.bodyTokens body ++ rest)) =
      memberFieldsFrom #[] rest := by
  have hgo : annotationGoesOn (Member.bodyTokens body ++ rest) = false :=
    annotationGoesOn_cons (by simp) (by simp) _
  have := h [] _ hgo
  rw [Member.bodyTokens, List.cons_append, List.append_assoc, List.singleton_append,
    memberFieldsFrom_braces_of_not_mem _ body.2 rfl (by simpa using heq)] at this
  simpa [Member.bodyTokens] using this

/-- **A member gives its fields, and leaves nothing behind.** -/
theorem Member.reads (m : Member) (rest : List Token) :
    memberFieldsFrom #[] (m.tokens ++ rest) = m.names ++ memberFieldsFrom #[] rest := by
  cases m with
  | field s => exact s.reads rest
  | method header hheader body =>
    obtain ⟨kept, hleaves, heq, hat, hparen⟩ := hheader.leaves
    cases body with
    | none =>
      have hgo : annotationGoesOn (.sign ';' :: rest) = false :=
        annotationGoesOn_cons (by simp) (by simp) _
      have := hleaves [] _ hgo
      have hnone := declarators_eq_none (hparen rfl) heq hat [] none 0
      rw [List.append_nil] at hnone
      rw [memberFieldsFrom_semicolon, List.nil_append, declaratorNames, hnone] at this
      simpa [tokens, names] using this
    | some body =>
      rw [tokens, List.append_assoc]
      exact memberFieldsFrom_body hleaves heq body rest
  | block isStatic body =>
    rw [tokens, List.append_assoc]
    cases isStatic with
    | false => exact memberFieldsFrom_body .nil (by simp) body rest
    | true =>
      exact memberFieldsFrom_body (Leaves.nil.token rfl (by simp) (by simp)) (by simp) body rest
  | nestedType parameters header hheader body =>
    obtain ⟨kept, hleaves, heq, -, -⟩ := hheader.leaves
    rw [tokens, List.append_assoc]
    exact memberFieldsFrom_body hleaves heq body rest
  | semicolon =>
    have : memberFieldsFrom [].toArray (.sign ';' :: rest) = _ := memberFieldsFrom_semicolon []
    simpa [tokens, names, declaratorNames, declarators] using this

/-- **A body is read exactly**: its fields are those of its members, in order. -/
theorem memberFields_members (members : List Member) :
    memberFields (members.flatMap Member.tokens) = members.flatMap Member.names := by
  rw [memberFields]
  induction members with
  | nil => simp [memberFieldsFrom]
  | cons m members ih =>
    rw [List.flatMap_cons, List.flatMap_cons, m.reads, ih]

/-- **The definition of a source text whose first declaration is a class.**  Its fields are the
declared names of the field statements of the body that are not static, in order. -/
theorem extract_class {source name : String} {header rest : List Token} {members : List Member}
    (hfirst : Declaration.IsFirst (tokenize source) ⟨.classType, name,
      header ++ .sign '\x7b' :: (members.flatMap Member.tokens ++ .sign '\x7d' :: rest)⟩)
    (hheader : .sign '\x7b' ∉ header) :
    Extractor.declaration.extract? source = some ⟨name, members.flatMap Member.names⟩ := by
  have hnested : Nested (members.flatMap Member.tokens) :=
    nested_flatMap Member.nested_tokens members
  rw [extract?_of_first? (Declaration.first?_eq_some_iff.mpr hfirst) (by decide) hheader hnested,
    Declaration.bodyFields, memberFields_members]

namespace MixedClass

/-! A class with members of many kinds: a private field with annotations before its type and in it,
and two declarators; a static field; a constructor; a field with a function for its value; a static
block; and a nested type. -/

def source : String :=
  "@Id(1) class T<K> extends B<K, K> \x7b " ++
  "@A(x = 1) private Map<K, @N int[]> a = \x7b1, 2\x7d, b[]; " ++
  "static int c; T(int d) \x7b e = d; \x7d ; Runnable r = () -> \x7b f(a, b); \x7d; " ++
  "static \x7b h = 1; \x7d class U \x7b int v; \x7d \x7d"

def header : List Token :=
  [.sign '<', .word "K", .sign '>', .word "extends", .word "B", .sign '<', .word "K", .sign ',',
    .word "K", .sign '>']

theorem isType_map : TypeTokens false [.word "Map", .sign '<', .word "K", .sign ',',
    .sign '@', .word "N", .word "int", .sign '[', .sign ']', .sign '>'] := by
  have harray : TypeTokens true [.word "int", .sign '[', .sign ']'] :=
    .word (by decide) (.brackets .nil .nil)
  have hinner : TypeTokens true [.word "K", .sign ',', .sign '@', .word "N", .word "int",
      .sign '[', .sign ']'] :=
    .word (by decide) (.comma (.annotated (a := ⟨"N", [], none⟩) (fun _ => rfl) harray))
  exact .word (by decide) (.arguments hinner .nil)

theorem isValue_list : ValueTokens
    [.sign '\x7b', .word "1", .sign ',', .word "2", .sign '\x7d'] := by
  have hinner : Nested [.word "1", .sign ',', .word "2"] := by decide
  exact .group rfl rfl hinner .nil

theorem isValue_function : ValueTokens [.sign '(', .sign ')', .sign '-', .sign '>',
    .sign '\x7b', .word "f", .sign '(', .word "a", .sign ',', .word "b", .sign ')', .sign ';',
    .sign '\x7d'] := by
  have hinner : Nested [.word "f", .sign '(', .word "a", .sign ',', .word "b", .sign ')',
      .sign ';'] := by decide
  have hbody : ValueTokens (.sign '\x7b' :: (_ ++ [.sign '\x7d'])) := .group rfl rfl hinner .nil
  exact .group rfl rfl .nil (.token rfl rfl (by decide) (by decide)
    (.token rfl rfl (by decide) (by decide) hbody))

theorem isHeader_constructor : HeaderTokens true
    [.word "T", .sign '(', .word "int", .word "d", .sign ')'] := by
  have hinner : Nested [.word "int", .word "d"] := by decide
  exact .token rfl rfl (by decide) (by decide) (by decide) (.parameters hinner .nil)

theorem isHeader_class : HeaderTokens false [.word "class", .word "U"] :=
  .token rfl rfl (by decide) (by decide) (by decide)
    (.token rfl rfl (by decide) (by decide) (by decide) .nil)

def members : List Member :=
  [.field {
      modifiers := [.annotated ⟨"A", [], some ⟨[.word "x", .sign '=', .word "1"], by decide⟩⟩,
        .word "private"]
      type := _
      htype := isType_map
      hstart := rfl
      first := ⟨"a", by decide, [], some ⟨_, isValue_list⟩⟩
      more := [⟨"b", by decide, [⟨[], .nil⟩], none⟩] },
    .field {
      modifiers := [.word "static"]
      type := [.word "int"]
      htype := .word (by decide) .nil
      hstart := rfl
      first := ⟨"c", by decide, [], none⟩ },
    .method _ isHeader_constructor (some ⟨[.word "e", .sign '=', .word "d", .sign ';'], by decide⟩),
    .semicolon,
    .field {
      modifiers := []
      type := [.word "Runnable"]
      htype := .word (by decide) .nil
      hstart := rfl
      first := ⟨"r", by decide, [], some ⟨_, isValue_function⟩⟩ },
    .block true ⟨[.word "h", .sign '=', .word "1", .sign ';'], by decide⟩,
    .nestedType false _ isHeader_class ⟨[.word "int", .word "v", .sign ';'], by decide⟩]

theorem isFirst : Declaration.IsFirst (tokenize source) ⟨.classType, "T",
    header ++ .sign '\x7b' :: (members.flatMap Member.tokens ++ .sign '\x7d' :: [])⟩ :=
  Declaration.first?_eq_some_iff.mp (by decide +kernel)

end MixedClass

open MixedClass in
theorem extract_class_mixed :
    Declaration.IsFirst (tokenize source) ⟨.classType, "T",
      header ++ .sign '\x7b' :: (members.flatMap Member.tokens ++ .sign '\x7d' :: [])⟩ ∧
    .sign '\x7b' ∉ header ∧
    Extractor.declaration.extract? source = some ⟨"T", ["a", "b", "r"]⟩ :=
  ⟨isFirst, by decide, extract_class isFirst (by decide)⟩

end SeriesSchema
