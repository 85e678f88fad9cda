import SeriesSchema.Extractor
import SeriesSchema.Proofs.FirstDeclaration
import SeriesSchema.Proofs.Nested

/-!
# Declarations with closed groups

Two groups are read of a declaration: the component list of a record, which the first parenthesis
behind the name opens, and the body, which the first brace behind that opens.  Where they are
closed, the fields are those of what they hold, and nothing else of the source matters.

1. the first group of a kind;
2. the fields of a declaration;
3. the definition of a source text.
-/

namespace SeriesSchema

/-! ## 1. The first group -/

/-- The first sign `opener` among tokens opens a group, which holds `inner` and is closed; `rest`
follows it. -/
def OpensGroup (opener : Char) (ts inner rest : List Token) : Prop :=
  ∃ front closer, ts = front ++ .sign opener :: (inner ++ closer :: rest) ∧
    .sign opener ∉ front ∧ Nested inner ∧ closer.isCloser = true

/-- The search for a sign passes over tokens that do not hold it. -/
theorem afterSign?_append {c : Char} {before : List Token} (h : .sign c ∉ before)
    (ts : List Token) : afterSign? c (before ++ .sign c :: ts) = some ts := by
  induction before with
  | nil => simp [afterSign?]
  | cons t before ih =>
    have ht : t ≠ .sign c := fun heq => h (by rw [heq]; exact List.mem_cons_self)
    rw [List.cons_append, afterSign?, if_neg ht]
    exact ih fun hmem => h (List.mem_cons_of_mem _ hmem)

namespace OpensGroup

variable {opener : Char} {ts inner rest : List Token}

/-- **A closed group is found and read to its end.** -/
theorem reads (h : OpensGroup opener ts inner rest) :
    ∃ group, afterSign? opener ts = some group ∧ splitGroup group = (inner, rest) := by
  obtain ⟨front, closer, rfl, hfront, hinner, hclose⟩ := h
  exact ⟨_, afterSign?_append hfront _, splitGroup_of_nested hinner hclose rest⟩

/-- It is the same group when more tokens follow. -/
theorem append (h : OpensGroup opener ts inner rest) (more : List Token) :
    OpensGroup opener (ts ++ more) inner (rest ++ more) := by
  obtain ⟨front, closer, rfl, hfront, hinner, hclose⟩ := h
  exact ⟨front, closer, by simp, hfront, hinner, hclose⟩

end OpensGroup

/-! ## 2. Fields -/

namespace Declaration

/-- The fields of a declaration with a closed body, unless it is that of a record. -/
theorem fields_of_body {d : Declaration} {body rest : List Token} (hkind : d.kind ≠ .recordType)
    (hbody : OpensGroup '\x7b' d.tokens body rest) : d.fields = bodyFields d.kind body := by
  have hcomponents : d.components = ([], d.tokens) := by
    rw [components]
    split
    · rename_i hrecord _
      exact absurd hrecord hkind
    · rfl
  obtain ⟨group, hgroup, hsplit⟩ := hbody.reads
  rw [fields, hcomponents]
  simp only [hgroup, hsplit, List.nil_append]

/-- The fields of a record with a closed list of components and, behind it, a closed body. -/
theorem fields_of_record {d : Declaration} {list behind body rest : List Token}
    (hkind : d.kind = .recordType) (hlist : OpensGroup '(' d.tokens list behind)
    (hbody : OpensGroup '\x7b' behind body rest) :
    d.fields = declaratorNames list ++ memberFields body := by
  obtain ⟨after, hafter, hsplit⟩ := hlist.reads
  have hcomponents : d.components = (declaratorNames list, behind) := by
    rw [components, hkind, hafter]
    simp only [hsplit]
  obtain ⟨group, hgroup, hsplit⟩ := hbody.reads
  rw [fields, hcomponents]
  simp only [hgroup, hsplit, hkind, bodyFields]

end Declaration

/-! ## 3. Definitions -/

/-- The definition of a source text is that of its first declaration. -/
theorem extract?_eq_definition {source : String} {d : Declaration}
    (h : Declaration.first? (tokenize source) = some d) :
    Extractor.declaration.extract? source = some d.definition := by
  rw [Extractor.extract?, Declaration.read?, h, Option.map_some]

/-- The definition of a source text whose first declaration has a closed body, unless it is that of
a record: its fields are those of the body. -/
theorem extract?_of_first? {source name : String} {kind : Kind} {header body rest : List Token}
    (hfirst : Declaration.first? (tokenize source) =
      some ⟨kind, name, header ++ .sign '\x7b' :: (body ++ .sign '\x7d' :: rest)⟩)
    (hkind : kind ≠ .recordType) (hheader : .sign '\x7b' ∉ header) (hbody : Nested body) :
    Extractor.declaration.extract? source = some ⟨name, Declaration.bodyFields kind body⟩ := by
  have hgroup : OpensGroup '\x7b' (header ++ .sign '\x7b' :: (body ++ .sign '\x7d' :: rest))
      body rest := ⟨header, _, rfl, hheader, hbody, rfl⟩
  rw [extract?_eq_definition hfirst, Declaration.definition,
    Declaration.fields_of_body hkind hgroup]

/-- The definition of a source text whose first declaration is a record with a closed list of
components and a closed body: its fields are those of both. -/
theorem extract?_of_first?_record {source name : String}
    {parameters list header body rest : List Token}
    (hfirst : Declaration.first? (tokenize source) = some ⟨.recordType, name,
      parameters ++ .sign '(' :: (list ++ .sign ')' ::
        (header ++ .sign '\x7b' :: (body ++ .sign '\x7d' :: rest)))⟩)
    (hparameters : .sign '(' ∉ parameters) (hlist : Nested list)
    (hheader : .sign '\x7b' ∉ header) (hbody : Nested body) :
    Extractor.declaration.extract? source =
      some ⟨name, declaratorNames list ++ memberFields body⟩ := by
  have hgroup : OpensGroup '\x7b' (header ++ .sign '\x7b' :: (body ++ .sign '\x7d' :: rest))
      body rest := ⟨header, _, rfl, hheader, hbody, rfl⟩
  rw [extract?_eq_definition hfirst, Declaration.definition,
    Declaration.fields_of_record rfl ⟨parameters, _, rfl, hparameters, hlist, rfl⟩ hgroup]

end SeriesSchema
