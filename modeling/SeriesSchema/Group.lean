import SeriesSchema.Token

/-!
# Groups and annotations

A group is what stands between an opening bracket and the closer that brings the depth back: a
parameter list, an array size, a body.  Only the depth counts, not the kind of a bracket, so every
list of tokens has a reading, also one whose brackets do not match.  A group that nothing closes
reaches to the end of the tokens; if these happen to end in a closer, that one is taken for its end.

All functions here take the tokens *after* the opener or the `@`, and give back what follows the
group or the annotation, which is a suffix of what they were given (`groupRest_suffix`,
`annotationRest_suffix`).  This is what makes the readers of declarations end.
-/

namespace SeriesSchema

/-! ## 1. Groups -/

/-- How many groups are open after a token, of `depth` before it. -/
def Token.depthAfter (t : Token) (depth : Nat) : Nat :=
  if t.isOpener then depth + 1 else if t.isCloser then depth - 1 else depth

/-- The tokens before the closer that ends a group and the tokens after it, if one does.  `depth`
groups are open within it. -/
def splitAtCloser : Nat → List Token → Option (List Token × List Token)
  | _, [] => none
  | depth, t :: ts =>
    if t.isCloser && depth == 0 then some ([], ts)
    else (splitAtCloser (t.depthAfter depth) ts).map fun p => (t :: p.1, p.2)

/-- The tokens without a closer at their end. -/
def dropLastCloser (ts : List Token) : List Token :=
  if ts.getLast?.any Token.isCloser then ts.dropLast else ts

/-- What a group holds, and what follows it; `ts` are the tokens after its opener. -/
def splitGroup (ts : List Token) : List Token × List Token :=
  (splitAtCloser 0 ts).getD (dropLastCloser ts, [])

/-- What follows a group; `ts` are the tokens after its opener. -/
def groupRest (ts : List Token) : List Token :=
  (splitGroup ts).2

/-- A closed group is its contents, a closer, and what follows. -/
theorem eq_append_of_splitAtCloser {depth : Nat} {ts inner rest : List Token}
    (h : splitAtCloser depth ts = some (inner, rest)) :
    ∃ closer, closer.isCloser = true ∧ ts = inner ++ closer :: rest := by
  induction ts generalizing depth inner with
  | nil => simp [splitAtCloser] at h
  | cons t ts ih =>
    rw [splitAtCloser] at h
    split at h
    · rename_i hcloser
      obtain ⟨rfl, rfl⟩ : [] = inner ∧ ts = rest := by simpa using h
      exact ⟨t, (Bool.and_eq_true_iff.mp hcloser).1, rfl⟩
    · obtain ⟨p, hp, heq⟩ := Option.map_eq_some_iff.mp h
      obtain ⟨rfl, rfl⟩ : t :: p.1 = inner ∧ p.2 = rest := by simpa using heq
      obtain ⟨closer, hc, rfl⟩ := ih hp
      exact ⟨closer, hc, rfl⟩

/-- What a group holds begins its tokens. -/
theorem splitGroup_prefix (ts : List Token) : (splitGroup ts).1 <+: ts := by
  rw [splitGroup]
  cases h : splitAtCloser 0 ts with
  | none =>
    simp only [Option.getD_none, dropLastCloser]
    split
    · exact List.dropLast_prefix ts
    · exact List.prefix_rfl
  | some p =>
    obtain ⟨closer, _, heq⟩ := eq_append_of_splitAtCloser h
    exact ⟨closer :: p.2, heq.symm⟩

/-- What follows a group ends its tokens. -/
theorem groupRest_suffix (ts : List Token) : groupRest ts <:+ ts := by
  rw [groupRest, splitGroup]
  cases h : splitAtCloser 0 ts with
  | none => exact List.nil_suffix
  | some p =>
    obtain ⟨closer, _, heq⟩ := eq_append_of_splitAtCloser h
    exact ⟨p.1 ++ [closer], by rw [heq]; simp⟩

theorem length_groupRest_le (ts : List Token) : (groupRest ts).length ≤ ts.length :=
  (groupRest_suffix ts).length_le

/-! ## 2. Annotations -/

/-- What follows the dotted words at the head of the tokens. -/
def qualifiersRest : List Token → List Token
  | .sign '.' :: .word _ :: ts => qualifiersRest ts
  | ts => ts

/-- What follows the name of an annotation: a word and the dotted words after it. -/
def annotationNameRest : List Token → List Token
  | .word _ :: ts => qualifiersRest ts
  | ts => qualifiersRest ts

/-- What follows an annotation, its arguments included; `ts` are the tokens after its `@`. -/
def annotationRest (ts : List Token) : List Token :=
  match annotationNameRest ts with
  | .sign '(' :: rest => groupRest rest
  | rest => rest

theorem qualifiersRest_suffix (ts : List Token) : qualifiersRest ts <:+ ts := by
  fun_induction qualifiersRest ts with
  | case1 text ts ih => exact ih.trans ⟨[.sign '.', .word text], rfl⟩
  | case2 => exact List.suffix_rfl

theorem annotationNameRest_suffix (ts : List Token) : annotationNameRest ts <:+ ts := by
  rw [annotationNameRest.eq_def]
  split
  · exact (qualifiersRest_suffix _).trans (List.suffix_cons _ _)
  · exact qualifiersRest_suffix _

theorem annotationRest_suffix (ts : List Token) : annotationRest ts <:+ ts := by
  have hname := annotationNameRest_suffix ts
  rw [annotationRest]
  split
  · rename_i rest heq
    rw [heq] at hname
    exact ((groupRest_suffix rest).trans (List.suffix_cons _ _)).trans hname
  · exact hname

theorem length_annotationRest_le (ts : List Token) : (annotationRest ts).length ≤ ts.length :=
  (annotationRest_suffix ts).length_le

end SeriesSchema
