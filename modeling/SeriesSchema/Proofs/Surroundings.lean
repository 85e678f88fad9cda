import SeriesSchema.Proofs.ClassBody
import SeriesSchema.Proofs.Separators

/-!
# What stands around a declaration

A source text gives the same definition when other texts are put before it and behind it, each on
lines of its own.

* **In front** no declaration may open, and none may be half open at the end: a full stop or a
  keyword there would change what the first token of the source is to the search
  (`Declaration.StaysOut`).
* **Behind** anything may stand, also what is no program.  For this the groups that are read, the
  body and the component list of a record, have to be closed in the source itself
  (`Declaration.IsComplete`).  Else the search for their brackets would go on in the text behind.

The line ends keep the tokens of the three texts apart, if none of the first two ends within a
comment or a literal.  The rest is about tokens: the search for a declaration passes over the front
and finds the first one of the source (`Declaration.StaysOut.skips`,
`Declaration.firstFrom?_append`), and its groups end where they did (`OpensGroup.append`).

1. what may stand in front;
2. what may stand behind;
3. sources.
-/

namespace SeriesSchema

namespace Declaration

/-! ## 1. In front -/

/-- Tokens in which no declaration opens, and behind which one opens as it does at the beginning. -/
structure StaysOut (ts : List Token) : Prop where
  /-- a keyword stands behind a full stop or before no word -/
  opensNone : ∀ before keyword behind, ts = before ++ .word keyword :: behind →
    Kind.ofKeyword? keyword ≠ none →
      before.getLast? = some (.sign '.') ∨ behind.head?.bind Token.text? = none
  /-- the last token is no full stop -/
  endsInNoStop : ts.getLast? ≠ some (.sign '.')
  /-- nor a keyword -/
  endsInNoKeyword : ∀ keyword, ts.getLast? = some (.word keyword) → Kind.ofKeyword? keyword = none

/-- A keyword among tokens has the same token behind it when more tokens follow, unless it is the
last one. -/
theorem head?_append_of_keyword {keyword : String} {ts : List Token}
    (hkeyword : Kind.ofKeyword? keyword ≠ none)
    (hlast : ∀ word, (Token.word keyword :: ts).getLast? = some (.word word) →
      Kind.ofKeyword? word = none)
    (rest : List Token) : (ts ++ rest).head? = ts.head? := by
  cases ts with
  | nil => exact absurd (hlast keyword rfl) hkeyword
  | cons t ts => rfl

/-- The search passes over tokens in which no declaration opens, and carries along whether a full
stop stands before what it has reached. -/
theorem firstFrom?_append_of_opensNone {dotted : Bool} {ts : List Token}
    (hopens : ∀ before keyword behind, ts = before ++ .word keyword :: behind →
      Kind.ofKeyword? keyword ≠ none →
        endsDotted dotted before = true ∨ behind.head?.bind Token.text? = none)
    (hlast : ∀ word, ts.getLast? = some (.word word) → Kind.ofKeyword? word = none)
    (rest : List Token) :
    firstFrom? dotted (ts ++ rest) = firstFrom? (endsDotted dotted ts) rest := by
  induction ts generalizing dotted with
  | nil => rfl
  | cons t ts ih =>
    have hpassed : dotted = true ∨ t.text?.bind Kind.ofKeyword? = none ∨
        (ts ++ rest).head?.bind Token.text? = none := by
      cases t with
      | sign c => exact Or.inr (Or.inl rfl)
      | literal => exact Or.inr (Or.inl rfl)
      | word keyword =>
        by_cases hkeyword : Kind.ofKeyword? keyword = none
        · exact Or.inr (Or.inl hkeyword)
        · rw [head?_append_of_keyword hkeyword hlast]
          exact (hopens [] keyword ts rfl hkeyword).imp_right Or.inr
    have hrest : firstFrom? (t == .sign '.') (ts ++ rest) =
        firstFrom? (endsDotted (t == .sign '.') ts) rest := by
      refine ih ?_ ?_
      · intro before keyword behind heq hkeyword
        have := hopens (t :: before) keyword behind (by rw [heq]; rfl) hkeyword
        rwa [endsDotted_cons] at this
      · intro word hword
        refine hlast word ?_
        rw [List.getLast?_cons, hword]
        rfl
    rw [List.cons_append, firstFrom?_cons hpassed, hrest, endsDotted_cons]

theorem endsDotted_eq_false {ts : List Token} (h : ts.getLast? ≠ some (.sign '.')) :
    endsDotted false ts = false := by
  unfold endsDotted
  cases hlast : ts.getLast? with
  | none => rfl
  | some t =>
    have ht : t ≠ .sign '.' := fun heq => h (by rw [hlast, heq])
    simpa using ht

/-- **The search passes over what stays out of a declaration.** -/
theorem StaysOut.skips {ts : List Token} (h : StaysOut ts) : Skips ts := by
  intro rest
  have hopens : ∀ before keyword behind, ts = before ++ .word keyword :: behind →
      Kind.ofKeyword? keyword ≠ none →
        endsDotted false before = true ∨ behind.head?.bind Token.text? = none := by
    intro before keyword behind heq hkeyword
    refine (h.opensNone before keyword behind heq hkeyword).imp_left ?_
    intro hstop
    rw [endsDotted, hstop]
    rfl
  rw [firstFrom?_append_of_opensNone hopens h.endsInNoKeyword,
    endsDotted_eq_false h.endsInNoStop]

/-- Where the search finds nothing, each keyword stands behind a full stop or before no word. -/
theorem staysOut_of_first? {ts : List Token} (hnone : first? ts = none)
    (hstop : ts.getLast? ≠ some (.sign '.'))
    (hkeyword : ∀ word, ts.getLast? = some (.word word) → Kind.ofKeyword? word = none) :
    StaysOut ts where
  opensNone := by
    intro before keyword behind heq hkeyword
    obtain ⟨kind, hkind⟩ := Option.ne_none_iff_exists'.mp hkeyword
    have hnot := firstFrom?_eq_none_iff.mp hnone before
    cases behind with
    | nil => exact Or.inr rfl
    | cons t rest =>
      cases t with
      | sign c => exact Or.inr rfl
      | literal => exact Or.inr rfl
      | word name =>
        by_cases hbefore : before.getLast? = some (.sign '.')
        · exact Or.inl hbefore
        · exact absurd ⟨endsDotted_eq_false hbefore, keyword, hkind, heq⟩
            (hnot ⟨kind, name, rest⟩)
  endsInNoStop := hstop
  endsInNoKeyword := hkeyword

/-! ## 2. Behind -/

/-- The search finds the same declaration when more tokens follow. -/
theorem firstFrom?_append {dotted : Bool} {ts : List Token} {d : Declaration}
    (h : firstFrom? dotted ts = some d) (more : List Token) :
    firstFrom? dotted (ts ++ more) = some ⟨d.kind, d.name, d.tokens ++ more⟩ := by
  fun_induction firstFrom? dotted ts with
  | case1 => cases h
  | case2 t kind name rest hkind =>
    obtain rfl := Option.some.inj h
    simp [firstFrom?, hkind]
  | case3 dotted t ts hnone ih =>
    have hpassed : ∀ kind name rest, dotted = false → t.text?.bind Kind.ofKeyword? = some kind →
        ts ++ more = .word name :: rest → False := by
      intro kind name rest hdotted hkind heq
      cases ts with
      | nil => cases h
      | cons u ts => exact hnone kind name ts hdotted hkind (by rw [(List.cons.inj heq).1])
    rw [List.cons_append, firstFrom?.eq_3 _ _ _ hpassed, ih h]

/-- Whether the groups that are read of a declaration are closed: its body, and before it the
component list of a record. -/
def IsComplete (d : Declaration) : Prop :=
  match d.kind with
  | .recordType => ∃ list behind body rest,
      OpensGroup '(' d.tokens list behind ∧ OpensGroup '\x7b' behind body rest
  | _ => ∃ body rest, OpensGroup '\x7b' d.tokens body rest

/-- **What follows a complete declaration adds no field**, and takes none away. -/
theorem IsComplete.fields_append {d : Declaration} (h : d.IsComplete) (more : List Token) :
    (⟨d.kind, d.name, d.tokens ++ more⟩ : Declaration).fields = d.fields := by
  unfold IsComplete at h
  split at h
  · rename_i hkind
    obtain ⟨list, behind, body, rest, hlist, hbody⟩ := h
    rw [fields_of_record hkind hlist hbody]
    exact fields_of_record hkind (hlist.append more) (hbody.append more)
  · rename_i hkind
    obtain ⟨body, rest, hbody⟩ := h
    rw [fields_of_body hkind hbody]
    exact fields_of_body hkind (hbody.append more)

end Declaration

/-! ## 3. Sources -/

/-- **Texts on lines of their own keep their tokens.** -/
theorem tokenize_lines {front source : String} (hfront : IsClosed front) (hsource : IsClosed source)
    (back : String) :
    tokenize (front ++ "\n" ++ source ++ "\n" ++ back) =
      tokenize front ++ (tokenize source ++ tokenize back) := by
  have hboth := Separator.isClosed_text hfront (mayFollow_lineEnd front) hsource
  have hback := Separator.tokenize_text hboth (mayFollow_lineEnd _) back
  have hsplit := Separator.tokenize_text hfront (mayFollow_lineEnd front) source
  rw [text_lineEnd] at hback hsplit
  rw [hback, hsplit, List.append_assoc]

/-- **Only the first declaration counts.**  If it is complete in a closed text, the text gives the
same definition with any text behind it, and in front any closed text in which no declaration opens
and none is half open at the end. -/
theorem extract_surrounded {front source : String} {d : Declaration} (hfront : IsClosed front)
    (hstays : Declaration.StaysOut (tokenize front)) (hsource : IsClosed source)
    (hfirst : Declaration.IsFirst (tokenize source) d) (hcomplete : d.IsComplete)
    (back : String) :
    Extractor.declaration.extract? (front ++ "\n" ++ source ++ "\n" ++ back) =
        Extractor.declaration.extract? source ∧
      Extractor.declaration.extract? source = some d.definition := by
  have hd := Declaration.first?_eq_some_iff.mpr hfirst
  have hwhole : Declaration.first? (tokenize (front ++ "\n" ++ source ++ "\n" ++ back)) =
      some ⟨d.kind, d.name, d.tokens ++ tokenize back⟩ := by
    rw [tokenize_lines hfront hsource, Declaration.first?, hstays.skips]
    exact Declaration.firstFrom?_append hd _
  have hdefinition : (⟨d.kind, d.name, d.tokens ++ tokenize back⟩ : Declaration).definition =
      d.definition := by
    rw [Declaration.definition, hcomplete.fields_append]
    rfl
  rw [extract?_eq_definition hwhole, extract?_eq_definition hd, hdefinition]
  exact ⟨rfl, rfl⟩

namespace SurroundedRecord

/-! In front a comment, a keyword behind a full stop, and one before a semicolon.  The source is a
record with a class behind it.  What stands behind the source opens a literal, and never closes
it. -/

def front : String :=
  "/* class F \x7b */ import a.b; @Key(Base.class) enum;"

def source : String :=
  "record R(int a) \x7b static int b; \x7d class S \x7b int c; \x7d"

def back : String :=
  "\x7d class T \x7b int d = \"e; f("

def body : List Token :=
  [.word "static", .word "int", .word "b", .sign ';']

def behind : List Token :=
  [.word "class", .word "S", .sign '\x7b', .word "int", .word "c", .sign ';', .sign '\x7d']

def declaration : Declaration :=
  ⟨.recordType, "R", [] ++ .sign '(' :: ([.word "int", .word "a"] ++ .sign ')' ::
    ([] ++ .sign '\x7b' :: (body ++ .sign '\x7d' :: behind)))⟩

theorem staysOut_front : Declaration.StaysOut (tokenize front) := by
  have hlast : (tokenize front).getLast? = some (.sign ';') := by decide +kernel
  refine Declaration.staysOut_of_first? (by decide +kernel) ?_ ?_
  · rw [hlast]
    decide
  · intro word hword
    rw [hlast] at hword
    cases hword

theorem isFirst : Declaration.IsFirst (tokenize source) declaration :=
  Declaration.first?_eq_some_iff.mp (by decide +kernel)

theorem isComplete : declaration.IsComplete :=
  ⟨_, _, body, behind, ⟨[], .sign ')', rfl, by decide, by decide, rfl⟩,
    ⟨[], .sign '\x7d', rfl, by decide, by decide, rfl⟩⟩

end SurroundedRecord

open SurroundedRecord in
theorem extract_surrounded_record :
    IsClosed front ∧ Declaration.StaysOut (tokenize front) ∧ IsClosed source ∧
    Declaration.IsFirst (tokenize source) declaration ∧ declaration.IsComplete ∧
    Extractor.declaration.extract? (front ++ "\n" ++ source ++ "\n" ++ back) =
      Extractor.declaration.extract? source ∧
    Extractor.declaration.extract? source = some declaration.definition := by
  have hfront : IsClosed front := by decide +kernel
  have hsource : IsClosed source := by decide +kernel
  exact ⟨hfront, staysOut_front, hsource, isFirst, isComplete,
    extract_surrounded hfront staysOut_front hsource isFirst isComplete back⟩

end SeriesSchema
