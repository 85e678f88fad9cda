import SeriesSchema.Group

/-!
# Declarators

A field statement `modifiers type name = value, name[], …` or a list of record components declares
the names that stand last before a comma, before an `=`, or before its end.  Commas between angle
brackets belong to a type and separate nothing.  What an `=` begins is skipped to the next comma.

Two things take the whole statement back: a `(` outside every value, since it makes a method, and
the word `static`, since what is shared by all instances is no field of any.  The reading is
therefore an `Option`: `none` says that the statement declares no fields at all.

The statement comes with its groups collapsed: of a group in a value only the bracket or a literal
is left.  Component lists come as they are.
-/

namespace SeriesSchema

mutual

/-- The names declared by `ts`, in which `last` is the word read last since the last comma, and
`depth` angle brackets are open. -/
def declarators (last : Option String) (depth : Nat) : List Token → Option (List String)
  | [] => some last.toList
  | .word text :: ts =>
    if text = "static" then none else declarators (some text) depth ts
  | .sign '@' :: ts => declarators last depth (annotationRest ts)
  | .sign '(' :: _ => none
  | .sign '<' :: ts => declarators last (depth + 1) ts
  | .sign '>' :: ts => declarators last (depth - 1) ts
  | .sign ',' :: ts =>
    if depth = 0 then (declarators none 0 ts).map (last.toList ++ ·)
    else declarators last depth ts
  | .sign '=' :: ts =>
    if depth = 0 then (declaratorsAfterValue ts).map (last.toList ++ ·)
    else declarators last depth ts
  | _ :: ts => declarators last depth ts
termination_by ts => ts.length
decreasing_by
  all_goals simp_wf
  all_goals have := length_annotationRest_le ts
  all_goals omega

/-- The names declared after a value, of which `ts` is what is left. -/
def declaratorsAfterValue : List Token → Option (List String)
  | [] => some []
  | .sign ',' :: ts => declarators none 0 ts
  | _ :: ts => declaratorsAfterValue ts
termination_by ts => ts.length

end

/-- The names that a statement or a component list declares. -/
def declaratorNames (statement : List Token) : List String :=
  (declarators none 0 statement).getD []

end SeriesSchema
