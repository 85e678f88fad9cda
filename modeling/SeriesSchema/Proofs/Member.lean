import SeriesSchema.Proofs.Nested

/-!
# Members of a class body

The grammar of what may stand in the body of a class, as lists of tokens: fields, methods and
constructors, initializer blocks, nested types, and semicolons that stand alone.  A member knows
its tokens and the fields that it declares, and carries the conditions under which it is one.

The grammar is wider than that of the language: any words may be modifiers, and types are what
consists of words, signs, annotations, array brackets and argument lists in any order.  What it does
not leave open is where a comma, a semicolon, an equals sign or a brace may stand.

1. types;
2. values and declarators;
3. field statements;
4. headers, and members.
-/

namespace SeriesSchema

/-- A list of tokens in which all brackets are closed. -/
abbrev NestedTokens := { ts : List Token // Nested ts }

/-! ## 1. Types -/

/-- The tokens of a type; with `list`, of several types with commas between them. -/
inductive TypeTokens : Bool → List Token → Prop
  | nil {list : Bool} : TypeTokens list []
  | word {list : Bool} {text : String} {ts : List Token} (hstatic : text ≠ "static")
      (hts : TypeTokens list ts) : TypeTokens list (.word text :: ts)
  | sign {list : Bool} {c : Char} {ts : List Token} (hc : c = '.' ∨ c = '?' ∨ c = '&')
      (hts : TypeTokens list ts) : TypeTokens list (.sign c :: ts)
  | comma {ts : List Token} (hts : TypeTokens true ts) : TypeTokens true (.sign ',' :: ts)
  | annotated {list : Bool} {a : AnnotationForm} {ts : List Token} (hend : a.EndsBefore ts)
      (hts : TypeTokens list ts) : TypeTokens list (a.tokens ++ ts)
  | brackets {list : Bool} {inner ts : List Token} (hinner : Nested inner)
      (hts : TypeTokens list ts) : TypeTokens list (.sign '[' :: (inner ++ .sign ']' :: ts))
  | arguments {list : Bool} {inner ts : List Token} (hinner : TypeTokens true inner)
      (hts : TypeTokens list ts) : TypeTokens list (.sign '<' :: (inner ++ .sign '>' :: ts))

/-! ## 2. Values and declarators -/

/-- The tokens of a value: brackets are closed, and commas and semicolons stand only within. -/
inductive ValueTokens : List Token → Prop
  | nil : ValueTokens []
  | token {t : Token} {ts : List Token} (hopen : t.isOpener = false) (hclose : t.isCloser = false)
      (hcomma : t ≠ .sign ',') (hsemicolon : t ≠ .sign ';') (hts : ValueTokens ts) :
      ValueTokens (t :: ts)
  | group {opener closer : Token} {inner ts : List Token} (hopen : opener.isOpener = true)
      (hclose : closer.isCloser = true) (hinner : Nested inner) (hts : ValueTokens ts) :
      ValueTokens (opener :: (inner ++ closer :: ts))

/-- A name with array brackets behind it and, perhaps, a value. -/
structure Declarator where
  name : String
  hname : name ≠ "static"
  sizes : List NestedTokens := []
  value : Option { ts : List Token // ValueTokens ts } := none

namespace Declarator

/-- The tokens of the array brackets. -/
def sizeTokens (sizes : List NestedTokens) : List Token :=
  sizes.flatMap fun size => .sign '[' :: (size.1 ++ [.sign ']'])

/-- The tokens of the value and of the sign before it. -/
def valueTokens (d : Declarator) : List Token :=
  match d.value with
  | none => []
  | some value => .sign '=' :: value.1

/-- The tokens of a declarator. -/
def tokens (d : Declarator) : List Token :=
  .word d.name :: (sizeTokens d.sizes ++ d.valueTokens)

end Declarator

/-! ## 3. Field statements -/

/-- What may stand before the type of a field. -/
inductive Modifier
  | word (text : String)
  | annotated (a : AnnotationForm)

/-- The tokens of a modifier. -/
def Modifier.tokens : Modifier → List Token
  | word text => [.word text]
  | annotated a => a.tokens

/-- Whether a modifier makes a field static. -/
def Modifier.isStatic : Modifier → Bool
  | word text => text == "static"
  | annotated _ => false

/-- A field statement: modifiers, a type, and declarators with commas between them. -/
structure FieldStatement where
  modifiers : List Modifier
  type : List Token
  htype : TypeTokens false type
  /-- the type is not read as more of an annotation before it -/
  hstart : annotationGoesOn type = false
  first : Declarator
  more : List Declarator := []

namespace FieldStatement

/-- The tokens of a field statement. -/
def tokens (s : FieldStatement) : List Token :=
  s.modifiers.flatMap Modifier.tokens ++ (s.type ++ (s.first.tokens ++
    ((s.more.flatMap fun d => .sign ',' :: d.tokens) ++ [.sign ';'])))

/-- The fields that a statement declares for each instance: the declared names, unless the
statement is static. -/
def names (s : FieldStatement) : List String :=
  if s.modifiers.any Modifier.isStatic then [] else (s.first :: s.more).map Declarator.name

end FieldStatement

/-! ## 4. Members -/

/-- The tokens of a header, in which no `=`, `;` or brace stands outside parentheses and brackets.
`parameters` says that there is a list in parentheses which belongs to no annotation. -/
inductive HeaderTokens : Bool → List Token → Prop
  | nil : HeaderTokens false []
  | token {parameters : Bool} {t : Token} {ts : List Token} (hopen : t.isOpener = false)
      (hclose : t.isCloser = false) (hat : t ≠ .sign '@') (heq : t ≠ .sign '=')
      (hsemicolon : t ≠ .sign ';') (hts : HeaderTokens parameters ts) :
      HeaderTokens parameters (t :: ts)
  | annotated {parameters : Bool} {a : AnnotationForm} {ts : List Token} (hend : a.EndsBefore ts)
      (hts : HeaderTokens parameters ts) : HeaderTokens parameters (a.tokens ++ ts)
  | parameters {parameters : Bool} {inner ts : List Token} (hinner : Nested inner)
      (hts : HeaderTokens parameters ts) :
      HeaderTokens true (.sign '(' :: (inner ++ .sign ')' :: ts))
  | brackets {parameters : Bool} {inner ts : List Token} (hinner : Nested inner)
      (hts : HeaderTokens parameters ts) :
      HeaderTokens parameters (.sign '[' :: (inner ++ .sign ']' :: ts))

/-- What may stand in the body of a class. -/
inductive Member
  | field (statement : FieldStatement)
  /-- a method or a constructor, with a body or without -/
  | method (header : List Token) (hheader : HeaderTokens true header) (body : Option NestedTokens)
  /-- an initializer block -/
  | block (isStatic : Bool) (body : NestedTokens)
  /-- a nested type; that of a record has a list in parentheses in its header -/
  | nestedType (parameters : Bool) (header : List Token) (hheader : HeaderTokens parameters header)
      (body : NestedTokens)
  /-- a semicolon that stands alone -/
  | semicolon

namespace Member

/-- The tokens of a body. -/
def bodyTokens (body : NestedTokens) : List Token :=
  .sign '\x7b' :: (body.1 ++ [.sign '\x7d'])

/-- The tokens of a member. -/
def tokens : Member → List Token
  | field s => s.tokens
  | method header _ none => header ++ [.sign ';']
  | method header _ (some body) => header ++ bodyTokens body
  | block isStatic body => (if isStatic then [.word "static"] else []) ++ bodyTokens body
  | nestedType _ header _ body => header ++ bodyTokens body
  | semicolon => [.sign ';']

/-- The fields that a member declares for each instance. -/
def names : Member → List String
  | field s => s.names
  | _ => []

end Member

/-! ## 5. All of this is nested -/

theorem AnnotationForm.nested_tokens (a : AnnotationForm) : Nested a.tokens := by
  obtain ⟨name, qualifiers, arguments⟩ := a
  have hqualifiers : Nested (qualifiers.flatMap fun q => [.sign '.', .word q]) := by
    induction qualifiers with
    | nil => exact .nil
    | cons q qs ih => exact .token rfl rfl (.token rfl rfl ih)
  have harguments : Nested (⟨name, qualifiers, arguments⟩ : AnnotationForm).argumentTokens := by
    cases arguments with
    | none => exact .nil
    | some ts => exact .group rfl rfl ts.2 .nil
  exact .token rfl rfl (.token rfl rfl (hqualifiers.append harguments))

theorem TypeTokens.nested {list : Bool} {ts : List Token} (h : TypeTokens list ts) :
    Nested ts := by
  induction h with
  | nil => exact .nil
  | word _ _ ih => exact .token rfl rfl ih
  | sign hc _ ih => rcases hc with rfl | rfl | rfl <;> exact .token rfl rfl ih
  | comma _ ih => exact .token rfl rfl ih
  | annotated _ _ ih => exact (AnnotationForm.nested_tokens _).append ih
  | brackets hinner _ ih => exact .group rfl rfl hinner ih
  | arguments _ _ ihinner ihts =>
    exact .token rfl rfl (ihinner.append (.token rfl rfl ihts))

theorem ValueTokens.nested {ts : List Token} (h : ValueTokens ts) : Nested ts := by
  induction h with
  | nil => exact .nil
  | token hopen hclose _ _ _ ih => exact .token hopen hclose ih
  | group hopen hclose hinner _ ih => exact .group hopen hclose hinner ih

theorem HeaderTokens.nested {parameters : Bool} {ts : List Token}
    (h : HeaderTokens parameters ts) : Nested ts := by
  induction h with
  | nil => exact .nil
  | token hopen hclose _ _ _ _ ih => exact .token hopen hclose ih
  | annotated _ _ ih => exact (AnnotationForm.nested_tokens _).append ih
  | parameters hinner _ ih => exact .group rfl rfl hinner ih
  | brackets hinner _ ih => exact .group rfl rfl hinner ih

/-- Lists that are put together from nested ones are nested. -/
theorem nested_flatMap {α : Type} {f : α → List Token} (h : ∀ a, Nested (f a)) (l : List α) :
    Nested (l.flatMap f) := by
  induction l with
  | nil => exact .nil
  | cons a l ih => exact (h a).append ih

theorem Declarator.nested_tokens (d : Declarator) : Nested d.tokens := by
  have hsizes : Nested (sizeTokens d.sizes) :=
    nested_flatMap (fun size => .group rfl rfl size.2 .nil) d.sizes
  have hvalue : Nested d.valueTokens := by
    rw [valueTokens]
    split
    · exact .nil
    · rename_i value _
      exact .token rfl rfl value.2.nested
  exact .token rfl rfl (hsizes.append hvalue)

theorem Modifier.nested_tokens (m : Modifier) : Nested m.tokens := by
  cases m with
  | word text => exact .token rfl rfl .nil
  | annotated a => exact a.nested_tokens

theorem FieldStatement.nested_tokens (s : FieldStatement) : Nested s.tokens := by
  have hmodifiers : Nested (s.modifiers.flatMap Modifier.tokens) :=
    nested_flatMap Modifier.nested_tokens s.modifiers
  have hmore : Nested (s.more.flatMap fun d => .sign ',' :: d.tokens) :=
    nested_flatMap (fun d => .token rfl rfl d.nested_tokens) s.more
  exact hmodifiers.append (s.htype.nested.append (s.first.nested_tokens.append
    (hmore.append (.token rfl rfl .nil))))

theorem Member.nested_tokens (m : Member) : Nested m.tokens := by
  have hbody (body : NestedTokens) : Nested (bodyTokens body) := .group rfl rfl body.2 .nil
  cases m with
  | field s => exact s.nested_tokens
  | method header hheader body =>
    cases body with
    | none => exact hheader.nested.append (.token rfl rfl .nil)
    | some body => exact hheader.nested.append (hbody body)
  | block isStatic body =>
    cases isStatic with
    | false => exact hbody body
    | true => exact .token rfl rfl (hbody body)
  | nestedType parameters header hheader body => exact hheader.nested.append (hbody body)
  | semicolon => exact .token rfl rfl .nil

end SeriesSchema
