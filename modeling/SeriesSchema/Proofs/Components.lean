import SeriesSchema.Proofs.ClassBody

/-!
# The components of a record

A component list goes to the search for declarators as it stands, while of a field statement only
what the reader of members keeps is searched.  So annotations are met here with their arguments, and
array brackets with both signs.  What carries over is the shape of the argument: a type declares
nothing, whatever word was read last before it, and leaves the depth of angle brackets as it was
(`ComponentType.declarators_append`).  The name behind it is then the word read last, and the comma
or the end of the list declares it.

A comma in the arguments of an annotation is skipped with them, and one in a list of type arguments
stands between angle brackets.  Array brackets have to be empty, as those of types are, since what
they hold would be searched too.

The body of a record is read like that of a class.  Its fields are static, so it adds nothing.

1. the grammar;
2. the search in a component list;
3. records.
-/

namespace SeriesSchema

/-! ## 1. The grammar -/

/-- The tokens of the type of a component; with `list`, of several types with commas between them.
The full stops may be three in a row, behind a type of which there may be any number of values.
`static` is reserved, and names no type and no component. -/
inductive ComponentType : Bool → List Token → Prop
  | nil {list : Bool} : ComponentType list []
  | word {list : Bool} {text : String} {ts : List Token} (hstatic : text ≠ "static")
      (hts : ComponentType list ts) : ComponentType list (.word text :: ts)
  | sign {list : Bool} {c : Char} {ts : List Token} (hc : c = '.' ∨ c = '?' ∨ c = '&')
      (hts : ComponentType list ts) : ComponentType list (.sign c :: ts)
  | comma {ts : List Token} (hts : ComponentType true ts) : ComponentType true (.sign ',' :: ts)
  | annotated {list : Bool} {a : AnnotationForm} {ts : List Token} (hend : a.EndsBefore ts)
      (hts : ComponentType list ts) : ComponentType list (a.tokens ++ ts)
  | brackets {list : Bool} {ts : List Token} (hts : ComponentType list ts) :
      ComponentType list (.sign '[' :: .sign ']' :: ts)
  | arguments {list : Bool} {inner ts : List Token} (hinner : ComponentType true inner)
      (hts : ComponentType list ts) : ComponentType list (.sign '<' :: (inner ++ .sign '>' :: ts))

/-- A component: annotations, a type, and a name. -/
structure Component where
  annotations : List AnnotationForm := []
  type : List Token
  htype : ComponentType false type
  /-- the type is not read as more of an annotation before it -/
  hstart : annotationGoesOn type = false
  name : String
  hname : name ≠ "static"

/-- The tokens of a component. -/
def Component.tokens (c : Component) : List Token :=
  c.annotations.flatMap AnnotationForm.tokens ++ (c.type ++ [.word c.name])

/-- Whether a member declares no field, or a static one. -/
def Member.IsShared : Member → Prop
  | field s => s.modifiers.any Modifier.isStatic = true
  | _ => True

/-! ## 2. Components -/

namespace ComponentType

variable {list : Bool} {ts : List Token}

/-- **A type declares nothing**, and takes nothing back. -/
theorem declarators_append (h : ComponentType list ts) (last : Option String) (depth : Nat)
    {rest : List Token} (hrest : annotationGoesOn rest = false) (hdepth : list = true → 0 < depth) :
    ∃ last', declarators last depth (ts ++ rest) = declarators last' depth rest := by
  induction h generalizing last depth rest with
  | nil => exact ⟨last, rfl⟩
  | word hstatic _ ih =>
    obtain ⟨last', heq⟩ := ih (some _) depth hrest hdepth
    exact ⟨last', by rw [List.cons_append, declarators, if_neg hstatic, heq]⟩
  | sign hc _ ih =>
    obtain ⟨last', heq⟩ := ih last depth hrest hdepth
    refine ⟨last', ?_⟩
    rcases hc with rfl | rfl | rfl <;> simpa [declarators] using heq
  | comma _ ih =>
    obtain ⟨last', heq⟩ := ih last depth hrest hdepth
    have hinside : depth ≠ 0 := Nat.ne_of_gt (hdepth rfl)
    exact ⟨last', by rw [List.cons_append, declarators, if_neg hinside, heq]⟩
  | annotated hend _ ih =>
    obtain ⟨last', heq⟩ := ih last depth hrest hdepth
    refine ⟨last', ?_⟩
    rw [List.append_assoc, AnnotationForm.tokens, List.cons_append, declarators,
      annotationRest_tokens (hend.append hrest), heq]
  | brackets _ ih =>
    obtain ⟨last', heq⟩ := ih last depth hrest hdepth
    exact ⟨last', by simpa [declarators] using heq⟩
  | arguments _ _ ihinner ihts =>
    rename_i inner ts _ _
    have hclose : annotationGoesOn (.sign '>' :: (ts ++ rest)) = false :=
      annotationGoesOn_cons (by simp) (by simp) _
    obtain ⟨last₁, heq₁⟩ := ihinner last (depth + 1) hclose fun _ => Nat.succ_pos depth
    obtain ⟨last₂, heq₂⟩ := ihts last₁ depth hrest hdepth
    refine ⟨last₂, ?_⟩
    rw [List.cons_append, List.append_assoc, List.cons_append, declarators, heq₁, declarators,
      Nat.add_sub_cancel, heq₂]

/-- Annotations before a type are part of one. -/
theorem annotations (annotations : List AnnotationForm) (hstart : annotationGoesOn ts = false)
    (h : ComponentType list ts) :
    ComponentType list (annotations.flatMap AnnotationForm.tokens ++ ts) := by
  induction annotations with
  | nil => exact h
  | cons a more ih =>
    rw [List.flatMap_cons, List.append_assoc]
    exact .annotated (fun _ => annotationGoesOn_annotations more hstart) ih

/-- The type of a component may be the type of a field. -/
theorem typeTokens (h : ComponentType list ts) : TypeTokens list ts := by
  induction h with
  | nil => exact .nil
  | word hstatic _ ih => exact .word hstatic ih
  | sign hc _ ih => exact .sign hc ih
  | comma _ ih => exact .comma ih
  | annotated hend _ ih => exact .annotated hend ih
  | brackets _ ih => exact .brackets .nil ih
  | arguments _ _ ihinner ihts => exact .arguments ihinner ihts

end ComponentType

namespace Component

/-- **Behind a component its name is the word read last.** -/
theorem declarators_tokens (c : Component) (last : Option String) (rest : List Token) :
    declarators last 0 (c.tokens ++ rest) = declarators (some c.name) 0 rest := by
  have htype := ComponentType.annotations c.annotations c.hstart c.htype
  have hname : annotationGoesOn (.word c.name :: rest) = false :=
    annotationGoesOn_cons (by simp) (by simp) rest
  obtain ⟨last', heq⟩ := htype.declarators_append last 0 hname (by simp)
  calc
    declarators last 0 (c.tokens ++ rest)
      = declarators last 0 ((c.annotations.flatMap AnnotationForm.tokens ++ c.type) ++
          .word c.name :: rest) := by simp [tokens]
    _ = declarators last' 0 (.word c.name :: rest) := heq
    _ = declarators (some c.name) 0 rest := by rw [declarators, if_neg c.hname]

theorem nested_tokens (c : Component) : Nested c.tokens := by
  have hannotations : Nested (c.annotations.flatMap AnnotationForm.tokens) :=
    nested_flatMap AnnotationForm.nested_tokens c.annotations
  exact hannotations.append (c.htype.typeTokens.nested.append (.token rfl rfl .nil))

end Component

/-- **A component list declares the names of its components**, in order. -/
theorem declaratorNames_components (components : List Component) :
    declaratorNames (separated Component.tokens components) = components.map Component.name := by
  have hall : declarators none 0 (separated Component.tokens components) =
      some (components.map Component.name) := by
    fun_induction separated Component.tokens components with
    | case1 => simp [declarators]
    | case2 c =>
      have := c.declarators_tokens none []
      simpa [declarators] using this
    | case3 c next more ih =>
      rw [c.declarators_tokens, declarators, if_pos rfl, ih]
      rfl
  rw [declaratorNames, hall, Option.getD_some]

/-! ## 3. Records -/

/-- Members that are shared by all instances add no field. -/
theorem Member.names_of_isShared {m : Member} (h : m.IsShared) : m.names = [] := by
  cases m with
  | field s => exact if_pos h
  | method => rfl
  | block => rfl
  | nestedType => rfl
  | semicolon => rfl

/-- **The definition of a source text whose first declaration is a record.**  Its fields are the
components, in order, and nothing from its body, whose fields are static. -/
theorem extract_record {source name : String} {parameters header rest : List Token}
    {components : List Component} {members : List Member}
    (hfirst : Declaration.IsFirst (tokenize source) ⟨.recordType, name,
      parameters ++ .sign '(' :: (separated Component.tokens components ++ .sign ')' ::
        (header ++ .sign '\x7b' :: (members.flatMap Member.tokens ++ .sign '\x7d' :: rest)))⟩)
    (hparameters : .sign '(' ∉ parameters) (hheader : .sign '\x7b' ∉ header)
    (hmembers : ∀ m ∈ members, m.IsShared) :
    Extractor.declaration.extract? source = some ⟨name, components.map Component.name⟩ := by
  have hlist : Nested (separated Component.tokens components) :=
    nested_separated Component.nested_tokens components
  have hbody : Nested (members.flatMap Member.tokens) :=
    nested_flatMap Member.nested_tokens members
  have hnames : members.flatMap Member.names = [] :=
    List.flatMap_eq_nil_iff.mpr fun m hm => Member.names_of_isShared (hmembers m hm)
  rw [extract?_of_first?_record (Declaration.first?_eq_some_iff.mpr hfirst) hparameters hlist
    hheader hbody, declaratorNames_components, memberFields_members, hnames, List.append_nil]

namespace FullRecord

/-! A component with two annotations, one of which has a list in braces, and with type arguments in
type arguments; one with an annotation within its type; and one that takes any number of values.  In
the body a static field with two declarators, a compact constructor, another constructor, a method
and a nested record. -/

def source : String :=
  "record P<T>(@A(x = \x7b1, 2\x7d, y = 3) @B Map<K, List<? extends T[]>> u, " ++
  "java.util.@N List v, int... w) implements I<P, Q> \x7b " ++
  "static final int[] d = \x7b1, 2\x7d, e; @O public P \x7b f(u); \x7d " ++
  "P(int g) \x7b this(g, 1); \x7d int h() \x7b return 1; \x7d record R(int i) \x7b \x7d \x7d"

def parameters : List Token :=
  [.sign '<', .word "T", .sign '>']

def header : List Token :=
  [.word "implements", .word "I", .sign '<', .word "P", .sign ',', .word "Q", .sign '>']

theorem isType_map : ComponentType false [.word "Map", .sign '<', .word "K", .sign ',',
    .word "List", .sign '<', .sign '?', .word "extends", .word "T", .sign '[', .sign ']',
    .sign '>', .sign '>'] := by
  have harray : ComponentType true [.sign '?', .word "extends", .word "T", .sign '[', .sign ']'] :=
    .sign (by simp) (.word (by decide) (.word (by decide) (.brackets .nil)))
  have hlist : ComponentType true ([.word "K", .sign ',', .word "List"] ++
      .sign '<' :: ([.sign '?', .word "extends", .word "T", .sign '[', .sign ']'] ++
        [.sign '>'])) :=
    .word (by decide) (.comma (.word (by decide) (.arguments harray .nil)))
  exact .word (by decide) (.arguments hlist .nil)

theorem isType_list : ComponentType false
    [.word "java", .sign '.', .word "util", .sign '.', .sign '@', .word "N", .word "List"] := by
  have hannotated : ComponentType false
      ((⟨"N", [], none⟩ : AnnotationForm).tokens ++ [.word "List"]) :=
    .annotated (fun _ => rfl) (.word (by decide) .nil)
  exact .word (by decide) (.sign (by simp) (.word (by decide) (.sign (by simp) hannotated)))

theorem isType_many : ComponentType false [.word "int", .sign '.', .sign '.', .sign '.'] :=
  .word (by decide) (.sign (by simp) (.sign (by simp) (.sign (by simp) .nil)))

def components : List Component :=
  [{  annotations :=
        [⟨"A", [], some ⟨[.word "x", .sign '=', .sign '\x7b', .word "1", .sign ',', .word "2",
          .sign '\x7d', .sign ',', .word "y", .sign '=', .word "3"], by decide⟩⟩,
          ⟨"B", [], none⟩]
      type := _
      htype := isType_map
      hstart := rfl
      name := "u"
      hname := by decide },
    { type := _
      htype := isType_list
      hstart := rfl
      name := "v"
      hname := by decide },
    { type := _
      htype := isType_many
      hstart := rfl
      name := "w"
      hname := by decide }]

theorem isHeader_compact : HeaderTokens false
    [.sign '@', .word "O", .word "public", .word "P"] := by
  have hwords : HeaderTokens false [.word "public", .word "P"] :=
    .token rfl rfl (by decide) (by decide) (by decide)
      (.token rfl rfl (by decide) (by decide) (by decide) .nil)
  exact .annotated (a := ⟨"O", [], none⟩) (fun _ => rfl) hwords

theorem isHeader_constructor : HeaderTokens true
    [.word "P", .sign '(', .word "int", .word "g", .sign ')'] := by
  have hinner : Nested [.word "int", .word "g"] := by decide
  exact .token rfl rfl (by decide) (by decide) (by decide) (.parameters hinner .nil)

theorem isHeader_method : HeaderTokens true [.word "int", .word "h", .sign '(', .sign ')'] :=
  .token rfl rfl (by decide) (by decide) (by decide)
    (.token rfl rfl (by decide) (by decide) (by decide) (.parameters .nil .nil))

theorem isHeader_record : HeaderTokens true
    [.word "record", .word "R", .sign '(', .word "int", .word "i", .sign ')'] := by
  have hinner : Nested [.word "int", .word "i"] := by decide
  exact .token rfl rfl (by decide) (by decide) (by decide)
    (.token rfl rfl (by decide) (by decide) (by decide) (.parameters hinner .nil))

def members : List Member :=
  [.field {
      modifiers := [.word "static", .word "final"]
      type := [.word "int", .sign '[', .sign ']']
      htype := .word (by decide) (.brackets .nil .nil)
      hstart := rfl
      first := ⟨"d", by decide, [], some ⟨_, MixedClass.isValue_list⟩⟩
      more := [⟨"e", by decide, [], none⟩] },
    .nestedType false _ isHeader_compact
      ⟨[.word "f", .sign '(', .word "u", .sign ')', .sign ';'], by decide⟩,
    .method _ isHeader_constructor (some ⟨[.word "this", .sign '(', .word "g", .sign ',',
      .word "1", .sign ')', .sign ';'], by decide⟩),
    .method _ isHeader_method (some ⟨[.word "return", .word "1", .sign ';'], by decide⟩),
    .nestedType true _ isHeader_record ⟨[], .nil⟩]

theorem isFirst : Declaration.IsFirst (tokenize source) ⟨.recordType, "P",
    parameters ++ .sign '(' :: (separated Component.tokens components ++ .sign ')' ::
      (header ++ .sign '\x7b' :: (members.flatMap Member.tokens ++ .sign '\x7d' :: [])))⟩ :=
  Declaration.first?_eq_some_iff.mp (by decide +kernel)

theorem isShared_of_mem : ∀ m ∈ members, m.IsShared := by
  simp [members, Member.IsShared, Modifier.isStatic]

end FullRecord

open FullRecord in
theorem extract_record_full :
    Declaration.IsFirst (tokenize source) ⟨.recordType, "P",
      parameters ++ .sign '(' :: (separated Component.tokens components ++ .sign ')' ::
        (header ++ .sign '\x7b' :: (members.flatMap Member.tokens ++ .sign '\x7d' :: [])))⟩ ∧
    .sign '(' ∉ parameters ∧ .sign '\x7b' ∉ header ∧ (∀ m ∈ members, m.IsShared) ∧
    Extractor.declaration.extract? source = some ⟨"P", ["u", "v", "w"]⟩ :=
  ⟨isFirst, by decide, by decide, isShared_of_mem,
    extract_record isFirst (by decide) (by decide) isShared_of_mem⟩

end SeriesSchema
