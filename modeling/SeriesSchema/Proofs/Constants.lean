import SeriesSchema.Proofs.ClassBody

/-!
# The constants of an enumeration

To the reader of an enumeration every word that it meets is a constant.  So a body is read exactly
if annotations, arguments and constant bodies are each skipped up to their own end and no further:
a word that is left over would be one constant too many, and one that is swallowed would be missing.

* An annotation without arguments ends with its name.  What follows it is one more annotation or
  the name of the constant, and never a parenthesis; so the arguments behind that name are those of
  the constant (`constantNames_annotations`).
* A constant ends at a comma, at a semicolon or with the body of the enumeration.  None of them
  opens a group, so nothing behind it is taken for arguments or a body of it (`EndsConstant`).

The semicolon ends the search, and the member section behind it only has to keep the body nested,
so that the body ends where it should.

1. the grammar;
2. the end of a constant;
3. constants;
4. bodies and sources.
-/

namespace SeriesSchema

/-! ## 1. The grammar -/

/-- A constant: annotations, a name, and arguments and a body if it has any. -/
structure ConstantForm where
  annotations : List AnnotationForm := []
  name : String
  arguments : Option NestedTokens := none
  body : Option NestedTokens := none

namespace ConstantForm

/-- The tokens of the arguments. -/
def argumentTokens (c : ConstantForm) : List Token :=
  match c.arguments with
  | none => []
  | some ts => .sign '(' :: (ts.1 ++ [.sign ')'])

/-- The tokens of the body. -/
def bodyTokens (c : ConstantForm) : List Token :=
  match c.body with
  | none => []
  | some ts => Member.bodyTokens ts

/-- The tokens of a constant. -/
def tokens (c : ConstantForm) : List Token :=
  c.annotations.flatMap AnnotationForm.tokens ++
    (.word c.name :: (c.argumentTokens ++ c.bodyTokens))

end ConstantForm

/-- The body of an enumeration: constants, perhaps a comma behind the last, and perhaps a semicolon
with a member section. -/
structure EnumBody where
  constants : List ConstantForm
  trailingComma : Bool := false
  members : Option NestedTokens := none

namespace EnumBody

/-- The tokens of the member section and of the semicolon before it. -/
def memberTokens (b : EnumBody) : List Token :=
  match b.members with
  | none => []
  | some ts => .sign ';' :: ts.1

/-- The tokens behind the constants. -/
def endTokens (b : EnumBody) : List Token :=
  (if b.trailingComma then [.sign ','] else []) ++ b.memberTokens

/-- The tokens of a body. -/
def tokens (b : EnumBody) : List Token :=
  separated ConstantForm.tokens b.constants ++ b.endTokens

/-- The names of the constants. -/
def names (b : EnumBody) : List String :=
  b.constants.map ConstantForm.name

end EnumBody

/-! ## 2. The end of a constant -/

/-- Whether a constant ends where tokens begin. -/
def EndsConstant (rest : List Token) : Prop :=
  rest = [] ∨ EndsDeclarator rest

/-- What ends a constant opens no arguments and no body. -/
theorem EndsConstant.no_group {rest : List Token} (h : EndsConstant rest) :
    argumentsRest rest = rest ∧ bodyRest rest = rest := by
  obtain rfl | ⟨t, more, rfl, rfl | rfl⟩ := h <;> exact ⟨rfl, rfl⟩

namespace EnumBody

theorem endsConstant_endTokens (b : EnumBody) : EndsConstant b.endTokens := by
  unfold endTokens memberTokens
  cases b.trailingComma with
  | true => exact Or.inr ⟨_, _, rfl, Or.inl rfl⟩
  | false =>
    cases b.members with
    | none => exact Or.inl rfl
    | some ts => exact Or.inr ⟨_, _, rfl, Or.inr rfl⟩

/-- Behind the constants no further constant is found. -/
theorem constantNames_endTokens (b : EnumBody) : constantNames b.endTokens = [] := by
  have hmembers : constantNames b.memberTokens = [] := by
    unfold memberTokens
    split
    · rw [constantNames]
    · rw [constantNames]
  unfold endTokens
  cases b.trailingComma with
  | true => simpa [constantNames] using hmembers
  | false => exact hmembers

end EnumBody

/-! ## 3. Constants -/

/-- **Annotations are skipped up to what follows them**, be it a name with arguments. -/
theorem constantNames_annotations (annotations : List AnnotationForm) {ts : List Token}
    (h : annotationGoesOn ts = false) :
    constantNames (annotations.flatMap AnnotationForm.tokens ++ ts) = constantNames ts := by
  induction annotations with
  | nil => rfl
  | cons a more ih =>
    have hend : a.EndsBefore (more.flatMap AnnotationForm.tokens ++ ts) :=
      fun _ => annotationGoesOn_annotations more h
    rw [List.flatMap_cons, List.append_assoc, AnnotationForm.tokens, List.cons_append,
      constantNames, annotationRest_tokens hend, ih]

namespace ConstantForm

theorem argumentsRest_tokens (c : ConstantForm) {rest : List Token} (h : EndsConstant rest) :
    argumentsRest (c.argumentTokens ++ (c.bodyTokens ++ rest)) = c.bodyTokens ++ rest := by
  unfold argumentTokens
  cases c.arguments with
  | some ts =>
    rw [List.cons_append, List.append_assoc, argumentsRest]
    exact groupRest_of_nested ts.2 rfl _
  | none =>
    unfold bodyTokens
    cases c.body with
    | some ts => rfl
    | none => exact h.no_group.1

theorem bodyRest_tokens (c : ConstantForm) {rest : List Token} (h : EndsConstant rest) :
    bodyRest (c.bodyTokens ++ rest) = rest := by
  unfold bodyTokens
  cases c.body with
  | none => exact h.no_group.2
  | some ts =>
    simp only [Member.bodyTokens]
    rw [List.cons_append, List.append_assoc, bodyRest]
    exact groupRest_of_nested ts.2 rfl rest

/-- **A constant gives its name, and leaves nothing behind.** -/
theorem reads (c : ConstantForm) {rest : List Token} (h : EndsConstant rest) :
    constantNames (c.tokens ++ rest) = c.name :: constantNames rest := by
  have hname : annotationGoesOn
      (.word c.name :: (c.argumentTokens ++ (c.bodyTokens ++ rest))) = false :=
    annotationGoesOn_cons (by simp) (by simp) _
  calc
    constantNames (c.tokens ++ rest)
      = constantNames (c.annotations.flatMap AnnotationForm.tokens ++
          (.word c.name :: (c.argumentTokens ++ (c.bodyTokens ++ rest)))) := by
        simp [tokens]
    _ = constantNames (.word c.name :: (c.argumentTokens ++ (c.bodyTokens ++ rest))) :=
        constantNames_annotations c.annotations hname
    _ = c.name :: constantNames rest := by
        rw [constantNames, c.argumentsRest_tokens h, c.bodyRest_tokens h]

theorem nested_tokens (c : ConstantForm) : Nested c.tokens := by
  have harguments : Nested c.argumentTokens := by
    unfold argumentTokens
    cases c.arguments with
    | none => exact .nil
    | some ts => exact .group rfl rfl ts.2 .nil
  have hbody : Nested c.bodyTokens := by
    unfold bodyTokens
    cases c.body with
    | none => exact .nil
    | some ts => exact .group rfl rfl ts.2 .nil
  exact (nested_flatMap AnnotationForm.nested_tokens c.annotations).append
    (.token rfl rfl (harguments.append hbody))

end ConstantForm

/-- Constants with commas between them are read one after the other. -/
theorem constantNames_separated (constants : List ConstantForm) {rest : List Token}
    (hrest : EndsConstant rest) :
    constantNames (separated ConstantForm.tokens constants ++ rest) =
      constants.map ConstantForm.name ++ constantNames rest := by
  fun_induction separated ConstantForm.tokens constants with
  | case1 => rfl
  | case2 c => exact c.reads hrest
  | case3 c next more ih =>
    have hcomma : EndsConstant
        (.sign ',' :: (separated ConstantForm.tokens (next :: more) ++ rest)) :=
      Or.inr ⟨_, _, rfl, Or.inl rfl⟩
    rw [List.append_assoc, List.cons_append, c.reads hcomma, constantNames, ih]
    · rfl
    all_goals simp

/-! ## 4. Bodies and sources -/

namespace EnumBody

/-- **A body is read exactly.** -/
theorem constantNames_tokens (b : EnumBody) : constantNames b.tokens = b.names := by
  rw [tokens, constantNames_separated b.constants b.endsConstant_endTokens,
    b.constantNames_endTokens, List.append_nil, names]

theorem nested_tokens (b : EnumBody) : Nested b.tokens := by
  have hmembers : Nested b.memberTokens := by
    unfold memberTokens
    cases b.members with
    | none => exact .nil
    | some ts => exact .token rfl rfl ts.2
  have hend : Nested b.endTokens := by
    unfold endTokens
    cases b.trailingComma with
    | true => exact .token rfl rfl hmembers
    | false => exact hmembers
  exact (nested_separated ConstantForm.nested_tokens b.constants).append hend

end EnumBody

/-- **The definition of a source text whose first declaration is an enumeration.**  Its fields are
the constants, in order. -/
theorem extract_enum {source name : String} {header rest : List Token} {body : EnumBody}
    (hfirst : Declaration.IsFirst (tokenize source) ⟨.enumType, name,
      header ++ .sign '\x7b' :: (body.tokens ++ .sign '\x7d' :: rest)⟩)
    (hheader : .sign '\x7b' ∉ header) :
    Extractor.declaration.extract? source = some ⟨name, body.names⟩ := by
  rw [extract?_of_first? (Declaration.first?_eq_some_iff.mpr hfirst) (by decide) hheader
    body.nested_tokens, Declaration.bodyFields, body.constantNames_tokens]

namespace AnnotatedEnum

/-! An annotation without arguments before a constant that has some; a dotted annotation with a list
of values, and a second one, before a constant with a body; a constant with both; a comma behind it;
and a field and a method behind the semicolon. -/

def source : String :=
  "@Id(1) enum T implements I \x7b @A B(1), @x.C(\x7b1, 2\x7d) @D E \x7b int f; \x7d, " ++
  "F(g()) \x7b \x7d, ; int h; void k() \x7b \x7d \x7d"

def header : List Token :=
  [.word "implements", .word "I"]

def body : EnumBody where
  constants :=
    [{  annotations := [⟨"A", [], none⟩]
        name := "B"
        arguments := some ⟨[.word "1"], by decide⟩ },
      { annotations :=
          [⟨"x", ["C"], some ⟨[.sign '\x7b', .word "1", .sign ',', .word "2", .sign '\x7d'],
            by decide⟩⟩, ⟨"D", [], none⟩]
        name := "E"
        body := some ⟨[.word "int", .word "f", .sign ';'], by decide⟩ },
      { name := "F"
        arguments := some ⟨[.word "g", .sign '(', .sign ')'], by decide⟩
        body := some ⟨[], .nil⟩ }]
  trailingComma := true
  members := some ⟨[.word "int", .word "h", .sign ';', .word "void", .word "k", .sign '(',
    .sign ')', .sign '\x7b', .sign '\x7d'], by decide⟩

theorem isFirst : Declaration.IsFirst (tokenize source) ⟨.enumType, "T",
    header ++ .sign '\x7b' :: (body.tokens ++ .sign '\x7d' :: [])⟩ :=
  Declaration.first?_eq_some_iff.mp (by decide +kernel)

end AnnotatedEnum

open AnnotatedEnum in
theorem extract_enum_annotated :
    Declaration.IsFirst (tokenize source) ⟨.enumType, "T",
      header ++ .sign '\x7b' :: (body.tokens ++ .sign '\x7d' :: [])⟩ ∧
    .sign '\x7b' ∉ header ∧
    Extractor.declaration.extract? source = some ⟨"T", ["B", "E", "F"]⟩ :=
  ⟨isFirst, by decide, extract_enum isFirst (by decide)⟩

end SeriesSchema
