import SeriesSchema.Declarator
import SeriesSchema.Definition

/-!
# Declarations

The reading of a source text that follows its structure.  The first type declaration gives the
definition; which fields it has depends on its kind.

* An enumeration has its constants.
* A record has its components, and the fields of its body.
* A class has the fields of its body.
* An interface has none, since its fields are implicitly static.

Methods, constructors, initializer blocks and nested types declare no field.  They are told apart by
what a pending statement holds when a brace opens: after an `=` the brace belongs to a value, else
to a body, and the statement is dropped.

1. the first declaration;
2. the constants of an enumeration;
3. the fields of a body;
4. the definition of a source text.
-/

namespace SeriesSchema

/-! ## 1. The first declaration -/

/-- The kinds of type declaration. -/
inductive Kind
  | classType
  | enumType
  | recordType
  | interfaceType
deriving DecidableEq, Repr, Inhabited

/-- The kind that a keyword announces. -/
def Kind.ofKeyword? (word : String) : Option Kind :=
  if word = "class" then some .classType
  else if word = "enum" then some .enumType
  else if word = "record" then some .recordType
  else if word = "interface" then some .interfaceType
  else none

/-- A type declaration: its kind, its name, and the tokens after the name. -/
structure Declaration where
  kind : Kind
  name : String
  tokens : List Token
deriving DecidableEq, Repr, Inhabited

namespace Declaration

/-- The first keyword with a word after it opens the first declaration, unless the keyword follows
a full stop: that one names the class of an expression.  `dotted` says that a full stop stands right
before the tokens. -/
def firstFrom? (dotted : Bool) : List Token → Option Declaration
  | [] => none
  | t :: ts =>
    match dotted, t.text?.bind Kind.ofKeyword?, ts with
    | false, some kind, .word name :: rest => some ⟨kind, name, rest⟩
    | _, _, _ => firstFrom? (t == .sign '.') ts

/-- The first declaration of a list of tokens. -/
def first? (ts : List Token) : Option Declaration :=
  firstFrom? false ts

end Declaration

/-! ## 2. Constants -/

/-- What follows the arguments of a constant, if it has any. -/
def argumentsRest : List Token → List Token
  | .sign '(' :: ts => groupRest ts
  | ts => ts

/-- What follows the body of a constant, if it has one. -/
def bodyRest : List Token → List Token
  | .sign '{' :: ts => groupRest ts
  | ts => ts

theorem length_argumentsRest_le (ts : List Token) : (argumentsRest ts).length ≤ ts.length := by
  rw [argumentsRest.eq_def]
  split
  · exact Nat.le_succ_of_le (length_groupRest_le _)
  · exact Nat.le_refl _

theorem length_bodyRest_le (ts : List Token) : (bodyRest ts).length ≤ ts.length := by
  rw [bodyRest.eq_def]
  split
  · exact Nat.le_succ_of_le (length_groupRest_le _)
  · exact Nat.le_refl _

/-- The constants of an enumeration, up to the `;` that opens its member section. -/
def constantNames : List Token → List String
  | [] => []
  | .sign '@' :: ts => constantNames (annotationRest ts)
  | .sign ';' :: _ => []
  | .word name :: ts => name :: constantNames (bodyRest (argumentsRest ts))
  | _ :: ts => constantNames ts
termination_by ts => ts.length
decreasing_by
  all_goals simp_wf
  · have := length_annotationRest_le ts
    omega
  · have := length_bodyRest_le (argumentsRest ts)
    have := length_argumentsRest_le ts
    omega

/-! ## 3. Members -/

/-- The fields of a body, of whose current statement `pending` has been read.  A group leaves a
token in the statement: its bracket, or a literal if it is in braces and belongs to a value. -/
def memberFieldsFrom (pending : Array Token) : List Token → List String
  | [] => []
  | .sign '@' :: ts => memberFieldsFrom pending (annotationRest ts)
  | .sign '{' :: ts =>
    memberFieldsFrom (if pending.contains (.sign '=') then pending.push .literal else #[])
      (groupRest ts)
  | .sign '(' :: ts => memberFieldsFrom (pending.push (.sign '(')) (groupRest ts)
  | .sign '[' :: ts => memberFieldsFrom (pending.push (.sign '[')) (groupRest ts)
  | .sign ';' :: ts => declaratorNames pending.toList ++ memberFieldsFrom #[] ts
  | t :: ts => memberFieldsFrom (pending.push t) ts
termination_by ts => ts.length
decreasing_by
  all_goals simp_wf
  all_goals have := length_annotationRest_le ts
  all_goals have := length_groupRest_le ts
  all_goals omega

/-- The fields that the statements of a body declare. -/
def memberFields (body : List Token) : List String :=
  memberFieldsFrom #[] body

/-! ## 4. Definitions -/

/-- The tokens after the first sign `c`, if there is one. -/
def afterSign? (c : Char) : List Token → Option (List Token)
  | [] => none
  | t :: ts => if t = .sign c then some ts else afterSign? c ts

namespace Declaration

/-- The components of a record, and the tokens after their list; of another type, none. -/
def components (d : Declaration) : List String × List Token :=
  match d.kind, afterSign? '(' d.tokens with
  | .recordType, some ts => (declaratorNames (splitGroup ts).1, (splitGroup ts).2)
  | _, _ => ([], d.tokens)

/-- The fields of the body of a type of the given kind. -/
def bodyFields (kind : Kind) (body : List Token) : List String :=
  match kind with
  | .enumType => constantNames body
  | .interfaceType => []
  | .classType | .recordType => memberFields body

/-- The fields of a declared type. -/
def fields (d : Declaration) : List String :=
  d.components.1 ++
    match afterSign? '{' d.components.2 with
    | some ts => bodyFields d.kind (splitGroup ts).1
    | none => []

/-- The definition that a declaration gives. -/
def definition (d : Declaration) : Definition :=
  ⟨d.name, d.fields⟩

/-- The definition of a source text, if it declares a type. -/
def read? (source : String) : Option Definition :=
  (first? (tokenize source)).map definition

end Declaration

end SeriesSchema
