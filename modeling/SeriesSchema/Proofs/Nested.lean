import SeriesSchema.Group

/-!
# Nested tokens

A list of tokens is nested if every bracket that opens in it is closed in it, and none is closed
that did not open.  The kinds need not agree, since the reading of groups counts depth alone
(`SeriesSchema.Group`); lists whose brackets agree in kind are nested in particular.

On nested lists the reading of groups does what it is for: it ends a group at its own closer,
whatever follows (`splitGroup_of_nested`).  Likewise an annotation is read to its own end
(`annotationRest_tokens`), provided that what follows is not read as more of it.

1. nested lists, and a check for them;
2. what the reading of groups does on them;
3. annotations;
4. lists with commas.
-/

namespace SeriesSchema

/-! ## 1. Nested lists -/

/-- Lists of tokens in which all brackets are closed. -/
inductive Nested : List Token → Prop
  | nil : Nested []
  | token {t : Token} {ts : List Token} (hopen : t.isOpener = false) (hclose : t.isCloser = false)
      (hts : Nested ts) : Nested (t :: ts)
  | group {opener closer : Token} {inner ts : List Token} (hopen : opener.isOpener = true)
      (hclose : closer.isCloser = true) (hinner : Nested inner) (hts : Nested ts) :
      Nested (opener :: (inner ++ closer :: ts))

/-- No token opens a group and closes one. -/
theorem Token.isCloser_of_isOpener {t : Token} (h : t.isOpener = true) : t.isCloser = false := by
  cases t with
  | word text => rfl
  | literal => rfl
  | sign c =>
    simp only [Token.isOpener, Bool.or_eq_true, beq_iff_eq] at h
    rcases h with (rfl | rfl) | rfl <;> rfl

theorem Token.isOpener_of_isCloser {t : Token} (h : t.isCloser = true) : t.isOpener = false := by
  cases hopen : t.isOpener with
  | false => rfl
  | true => rw [Token.isCloser_of_isOpener hopen] at h; cases h

theorem Nested.append {s t : List Token} (hs : Nested s) (ht : Nested t) : Nested (s ++ t) := by
  induction hs with
  | nil => exact ht
  | token hopen hclose _ ih => exact .token hopen hclose ih
  | group hopen hclose hinner _ _ ih =>
    rw [List.cons_append, List.append_assoc, List.cons_append]
    exact .group hopen hclose hinner ih

/-- Whether a list closes all its brackets and `depth` more. -/
def closesFrom : Nat → List Token → Bool
  | depth, [] => depth == 0
  | depth, t :: ts =>
    if t.isOpener then closesFrom (depth + 1) ts
    else if t.isCloser then
      match depth with
      | 0 => false
      | depth + 1 => closesFrom depth ts
    else closesFrom depth ts

/-- Lists that consist of `depth` nested lists with a closer behind each, and a last nested list. -/
def NestedFrom : Nat → List Token → Prop
  | 0, ts => Nested ts
  | depth + 1, ts => ∃ inner closer rest,
      ts = inner ++ closer :: rest ∧ Nested inner ∧ closer.isCloser = true ∧ NestedFrom depth rest

/-- A nested list in front is taken up by the first of the nested lists. -/
theorem NestedFrom.append {s : List Token} (hs : Nested s) {depth : Nat} {ts : List Token}
    (h : NestedFrom depth ts) : NestedFrom depth (s ++ ts) := by
  cases depth with
  | zero => exact hs.append h
  | succ depth =>
    obtain ⟨inner, closer, rest, rfl, hinner, hclose, hrest⟩ := h
    exact ⟨s ++ inner, closer, rest, by simp, hs.append hinner, hclose, hrest⟩

theorem nestedFrom_of_closesFrom {depth : Nat} {ts : List Token}
    (h : closesFrom depth ts = true) : NestedFrom depth ts := by
  induction ts generalizing depth with
  | nil =>
    have hdepth : depth = 0 := by simpa [closesFrom] using h
    subst hdepth
    exact Nested.nil
  | cons t ts ih =>
    rw [closesFrom.eq_def] at h
    simp only at h
    split at h
    · rename_i hopen
      obtain ⟨inner, closer, rest, rfl, hinner, hclose, hrest⟩ := ih h
      have hgroup : Nested (t :: (inner ++ closer :: [])) := .group hopen hclose hinner .nil
      simpa using hrest.append hgroup
    · rename_i hopen
      split at h
      · rename_i hclose
        cases depth with
        | zero => simp at h
        | succ depth => exact ⟨[], t, ts, rfl, .nil, hclose, ih h⟩
      · rename_i hclose
        have ht : Nested [t] := .token (by simpa using hopen) (by simpa using hclose) .nil
        exact (ih h).append ht

theorem closesFrom_append {inner : List Token} (h : Nested inner) (depth : Nat)
    (ts : List Token) : closesFrom depth (inner ++ ts) = closesFrom depth ts := by
  induction h generalizing depth ts with
  | nil => rfl
  | token hopen hclose _ ih => simp [closesFrom, hopen, hclose, ih]
  | group hopen hclose _ _ ihinner ihts =>
    simp [closesFrom, hopen, hclose, Token.isOpener_of_isCloser hclose, ihinner, ihts]

/-- The check is exact. -/
theorem nested_iff {ts : List Token} : Nested ts ↔ closesFrom 0 ts = true := by
  constructor
  · intro h
    have := closesFrom_append h 0 []
    simpa [closesFrom] using this
  · exact fun h => nestedFrom_of_closesFrom h

instance (ts : List Token) : Decidable (Nested ts) :=
  decidable_of_iff _ nested_iff.symm

/-! ## 2. Groups -/

/-- **Nested tokens do not end a group.**  The search for a closer goes on behind them, at the depth
that it had. -/
theorem splitAtCloser_append {inner : List Token} (h : Nested inner) (depth : Nat)
    (ts : List Token) :
    splitAtCloser depth (inner ++ ts) =
      (splitAtCloser depth ts).map fun p => (inner ++ p.1, p.2) := by
  induction h generalizing depth ts with
  | nil => simp
  | token hopen hclose _ ih =>
    simp [splitAtCloser, Token.depthAfter, hopen, hclose, ih, Function.comp_def]
  | group hopen hclose _ _ ihinner ihts =>
    simp [splitAtCloser, Token.depthAfter, hopen, hclose, Token.isCloser_of_isOpener hopen,
      Token.isOpener_of_isCloser hclose, ihinner, ihts, Function.comp_def]

/-- **A group ends at its own closer**, whatever follows. -/
theorem splitGroup_of_nested {inner : List Token} {closer : Token} (h : Nested inner)
    (hclose : closer.isCloser = true) (rest : List Token) :
    splitGroup (inner ++ closer :: rest) = (inner, rest) := by
  simp [splitGroup, splitAtCloser_append h, splitAtCloser, hclose]

theorem groupRest_of_nested {inner : List Token} {closer : Token} (h : Nested inner)
    (hclose : closer.isCloser = true) (rest : List Token) :
    groupRest (inner ++ closer :: rest) = rest := by
  rw [groupRest, splitGroup_of_nested h hclose]

/-! ## 3. Annotations -/

/-- An annotation: a dotted name, and arguments in parentheses if it has any. -/
structure AnnotationForm where
  name : String
  qualifiers : List String := []
  arguments : Option { ts : List Token // Nested ts } := none

namespace AnnotationForm

/-- The tokens of the arguments. -/
def argumentTokens (a : AnnotationForm) : List Token :=
  match a.arguments with
  | none => []
  | some ts => .sign '(' :: (ts.1 ++ [.sign ')'])

/-- The tokens after the `@`. -/
def tokensBehindSign (a : AnnotationForm) : List Token :=
  .word a.name :: (a.qualifiers.flatMap fun q => [.sign '.', .word q]) ++ a.argumentTokens

/-- The tokens of an annotation. -/
def tokens (a : AnnotationForm) : List Token :=
  .sign '@' :: a.tokensBehindSign

end AnnotationForm

/-- Whether tokens may be read as more of an annotation that stands before them: as its arguments,
or as one more part of its name. -/
def annotationGoesOn : List Token → Bool
  | [] => false
  | [t] => t == .sign '(' || t == .sign '.'
  | t :: next :: _ => t == .sign '(' || (t == .sign '.' && next.text?.isSome)

theorem annotationGoesOn_cons {t : Token} (hparen : t ≠ .sign '(') (hdot : t ≠ .sign '.')
    (ts : List Token) : annotationGoesOn (t :: ts) = false := by
  cases ts <;> simp [annotationGoesOn, hparen, hdot]

/-- Whether an annotation ends where tokens begin.  After arguments it does in any case. -/
def AnnotationForm.EndsBefore (a : AnnotationForm) (ts : List Token) : Prop :=
  a.arguments = none → annotationGoesOn ts = false

/-- What does not extend an annotation does not do so either when more tokens follow. -/
theorem annotationGoesOn_append {s t : List Token} (hs : annotationGoesOn s = false)
    (ht : s = [] → annotationGoesOn t = false) : annotationGoesOn (s ++ t) = false := by
  match s with
  | [] => exact ht rfl
  | [x] =>
    have hx : x ≠ .sign '(' ∧ x ≠ .sign '.' := by simpa [annotationGoesOn] using hs
    exact annotationGoesOn_cons hx.1 hx.2 t
  | x :: y :: s => exact hs

theorem AnnotationForm.EndsBefore.append {a : AnnotationForm} {s t : List Token}
    (h : a.EndsBefore s) (ht : annotationGoesOn t = false) :
    a.EndsBefore (s ++ t) :=
  fun hnone => annotationGoesOn_append (h hnone) fun _ => ht

theorem qualifiersRest_append (qualifiers : List String) (ts : List Token) :
    qualifiersRest ((qualifiers.flatMap fun q => [.sign '.', .word q]) ++ ts) =
      qualifiersRest ts := by
  induction qualifiers with
  | nil => rfl
  | cons q qs ih => simpa [qualifiersRest] using ih

theorem qualifiersRest_of_not_goesOn {ts : List Token} (h : annotationGoesOn ts = false) :
    qualifiersRest ts = ts := by
  rw [qualifiersRest.eq_def]
  split
  · simp [annotationGoesOn, Token.text?] at h
  · rfl

/-- **An annotation is read to its end.** -/
theorem annotationRest_tokens {a : AnnotationForm} {ts : List Token} (h : a.EndsBefore ts) :
    annotationRest (a.tokensBehindSign ++ ts) = ts := by
  obtain ⟨name, qualifiers, arguments⟩ := a
  cases arguments with
  | none =>
    have hts := h rfl
    have hname : annotationNameRest
        ((⟨name, qualifiers, none⟩ : AnnotationForm).tokensBehindSign ++ ts) = ts := by
      simp only [AnnotationForm.tokensBehindSign, AnnotationForm.argumentTokens, List.append_nil,
        List.cons_append, annotationNameRest]
      rw [qualifiersRest_append, qualifiersRest_of_not_goesOn hts]
    rw [annotationRest, hname]
    split
    · rename_i rest
      cases rest <;> simp [annotationGoesOn] at hts
    · rfl
  | some arguments =>
    obtain ⟨inner, hinner⟩ := arguments
    have hname : annotationNameRest
        ((⟨name, qualifiers, some ⟨inner, hinner⟩⟩ : AnnotationForm).tokensBehindSign ++ ts) =
          .sign '(' :: (inner ++ .sign ')' :: ts) := by
      simp only [AnnotationForm.tokensBehindSign, AnnotationForm.argumentTokens, List.cons_append,
        List.append_assoc, List.nil_append, annotationNameRest]
      rw [qualifiersRest_append, qualifiersRest]
      simp
    rw [annotationRest, hname]
    exact groupRest_of_nested hinner rfl ts

/-- Annotations in a row, and what follows them, are not read as more of an annotation before. -/
theorem annotationGoesOn_annotations (annotations : List AnnotationForm) {ts : List Token}
    (h : annotationGoesOn ts = false) :
    annotationGoesOn (annotations.flatMap AnnotationForm.tokens ++ ts) = false := by
  cases annotations with
  | nil => exact h
  | cons a more => exact annotationGoesOn_cons (by simp) (by simp) _

/-! ## 4. Lists with commas -/

/-- The tokens of the items of a list, with a comma between any two. -/
def separated {α : Type} (tokens : α → List Token) : List α → List Token
  | [] => []
  | [a] => tokens a
  | a :: b :: more => tokens a ++ .sign ',' :: separated tokens (b :: more)

theorem nested_separated {α : Type} {tokens : α → List Token} (h : ∀ a, Nested (tokens a))
    (l : List α) : Nested (separated tokens l) := by
  fun_induction separated tokens l with
  | case1 => exact .nil
  | case2 a => exact h a
  | case3 a b more ih => exact (h a).append (.token rfl rfl ih)

end SeriesSchema
