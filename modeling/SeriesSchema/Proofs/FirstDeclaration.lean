import SeriesSchema.Declaration

/-!
# The first declaration

A declaration opens where a keyword and a word stand, unless a full stop stands before the keyword.
The search for it is a recursion that carries along whether it stands behind a full stop; here it is
shown to find the first place of this kind and no other (`Declaration.first?_eq_some_iff`).

For a text that is put together from pieces it is enough to know which of them the search passes
over (`Declaration.Skips`).
-/

namespace SeriesSchema.Declaration

/-- Whether tokens end in a full stop; if there are none, `dotted` says it. -/
def endsDotted (dotted : Bool) (before : List Token) : Bool :=
  (before.getLast?.map (· == .sign '.')).getD dotted

/-- The declaration `d` opens in `ts` behind the tokens `before`, where `dotted` says whether a full
stop stands before all of them. -/
def OpensFrom (dotted : Bool) (ts before : List Token) (d : Declaration) : Prop :=
  endsDotted dotted before = false ∧ ∃ keyword, Kind.ofKeyword? keyword = some d.kind ∧
    ts = before ++ .word keyword :: .word d.name :: d.tokens

/-- The declaration `d` opens in `ts`, and none opens before it. -/
def IsFirstFrom (dotted : Bool) (ts : List Token) (d : Declaration) : Prop :=
  ∃ before, OpensFrom dotted ts before d ∧
    ∀ earlier e, OpensFrom dotted ts earlier e → before.length ≤ earlier.length

/-- The declaration `d` is the first one of `ts`. -/
def IsFirst (ts : List Token) (d : Declaration) : Prop :=
  IsFirstFrom false ts d

/-! ## 1. Where a declaration opens -/

@[simp] theorem endsDotted_nil (dotted : Bool) : endsDotted dotted [] = dotted := rfl

@[simp] theorem endsDotted_cons (dotted : Bool) (t : Token) (before : List Token) :
    endsDotted dotted (t :: before) = endsDotted (t == .sign '.') before := by
  cases before with
  | nil => rfl
  | cons u before => simp [endsDotted, List.getLast?_cons]

theorem not_opensFrom_nil {dotted : Bool} {before : List Token} {d : Declaration} :
    ¬ OpensFrom dotted [] before d := by
  rintro ⟨-, keyword, -, heq⟩
  simp at heq

/-- A declaration opens at the first of the tokens. -/
theorem opensFrom_nil_iff {dotted : Bool} {t : Token} {ts : List Token} {d : Declaration} :
    OpensFrom dotted (t :: ts) [] d ↔
      dotted = false ∧ t.text?.bind Kind.ofKeyword? = some d.kind ∧
        ts = .word d.name :: d.tokens := by
  constructor
  · rintro ⟨hdot, keyword, hkind, heq⟩
    obtain ⟨rfl, rfl⟩ : t = .word keyword ∧ ts = .word d.name :: d.tokens := by simpa using heq
    exact ⟨hdot, hkind, rfl⟩
  · rintro ⟨hdot, hkind, rfl⟩
    obtain ⟨keyword, htext, hkeyword⟩ := Option.bind_eq_some_iff.mp hkind
    cases t with
    | word text =>
      obtain rfl : text = keyword := by simpa [Token.text?] using htext
      exact ⟨hdot, text, hkeyword, rfl⟩
    | sign c => simp [Token.text?] at htext
    | literal => simp [Token.text?] at htext

/-- A declaration opens behind the first of the tokens. -/
theorem opensFrom_cons_iff {dotted : Bool} {t u : Token} {ts before : List Token}
    {d : Declaration} :
    OpensFrom dotted (t :: ts) (u :: before) d ↔
      u = t ∧ OpensFrom (t == .sign '.') ts before d := by
  constructor
  · rintro ⟨hdot, keyword, hkind, heq⟩
    obtain ⟨rfl, rfl⟩ := List.cons.inj heq
    exact ⟨rfl, by simpa using hdot, keyword, hkind, rfl⟩
  · rintro ⟨rfl, hdot, keyword, hkind, rfl⟩
    exact ⟨by simpa using hdot, keyword, hkind, rfl⟩

/-- If none opens at the first of the tokens, the first declaration is that of the others. -/
theorem isFirstFrom_cons_iff {dotted : Bool} {t : Token} {ts : List Token} {d : Declaration}
    (hnone : ∀ e, ¬ OpensFrom dotted (t :: ts) [] e) :
    IsFirstFrom dotted (t :: ts) d ↔ IsFirstFrom (t == .sign '.') ts d := by
  constructor
  · rintro ⟨before, hopens, hleast⟩
    cases before with
    | nil => exact absurd hopens (hnone d)
    | cons u before =>
      obtain ⟨rfl, hopens⟩ := opensFrom_cons_iff.mp hopens
      refine ⟨before, hopens, fun earlier e he => ?_⟩
      have := hleast (u :: earlier) e (opensFrom_cons_iff.mpr ⟨rfl, he⟩)
      simpa using this
  · rintro ⟨before, hopens, hleast⟩
    refine ⟨t :: before, opensFrom_cons_iff.mpr ⟨rfl, hopens⟩, fun earlier e he => ?_⟩
    cases earlier with
    | nil => exact absurd he (hnone e)
    | cons u earlier =>
      have := hleast earlier e (opensFrom_cons_iff.mp he).2
      simpa using this

/-! ## 2. The search -/

theorem firstFrom?_eq_some_iff {dotted : Bool} {ts : List Token} {d : Declaration} :
    firstFrom? dotted ts = some d ↔ IsFirstFrom dotted ts d := by
  fun_induction firstFrom? dotted ts with
  | case1 dotted =>
    constructor
    · intro h
      cases h
    · rintro ⟨before, hopens, -⟩
      exact absurd hopens not_opensFrom_nil
  | case2 t kind name rest hkind =>
    have hopens : OpensFrom false (t :: .word name :: rest) [] ⟨kind, name, rest⟩ :=
      opensFrom_nil_iff.mpr ⟨rfl, hkind, rfl⟩
    constructor
    · intro h
      obtain rfl := Option.some.inj h
      exact ⟨[], hopens, fun _ _ _ => Nat.zero_le _⟩
    · rintro ⟨before, hd, hleast⟩
      -- nothing is before the head, so `d` opens there, and the head determines it
      obtain rfl : before = [] := by simpa using hleast [] _ hopens
      obtain ⟨-, hkind', heq⟩ := opensFrom_nil_iff.mp hd
      obtain ⟨rfl, rfl⟩ : name = d.name ∧ rest = d.tokens := by simpa using heq
      obtain rfl : kind = d.kind := by simpa [hkind] using hkind'
      rfl
  | case3 dotted t ts hnone ih =>
    rw [ih, isFirstFrom_cons_iff]
    intro e he
    obtain ⟨rfl, hkind, rfl⟩ := opensFrom_nil_iff.mp he
    exact hnone _ _ _ rfl hkind rfl

theorem firstFrom?_eq_none_iff {dotted : Bool} {ts : List Token} :
    firstFrom? dotted ts = none ↔ ∀ before d, ¬ OpensFrom dotted ts before d := by
  fun_induction firstFrom? dotted ts with
  | case1 dotted => exact iff_of_true rfl fun _ _ => not_opensFrom_nil
  | case2 t kind name rest hkind =>
    have hopens : OpensFrom false (t :: .word name :: rest) [] ⟨kind, name, rest⟩ :=
      opensFrom_nil_iff.mpr ⟨rfl, hkind, rfl⟩
    exact iff_of_false (by simp) fun h => h _ _ hopens
  | case3 dotted t ts hnone ih =>
    rw [ih]
    constructor
    · intro h before d hopens
      cases before with
      | nil =>
        obtain ⟨hdotted, hkind, hrest⟩ := opensFrom_nil_iff.mp hopens
        exact hnone _ _ _ hdotted hkind hrest
      | cons u before => exact h before d (opensFrom_cons_iff.mp hopens).2
    · intro h before d hopens
      exact h (t :: before) d (opensFrom_cons_iff.mpr ⟨rfl, hopens⟩)

/-- **The search finds the first declaration**, and finds one if there is any. -/
theorem first?_eq_some_iff {ts : List Token} {d : Declaration} :
    first? ts = some d ↔ IsFirst ts d :=
  firstFrom?_eq_some_iff

/-! ## 3. Tokens that the search passes over -/

/-- A token is passed over if it is no keyword, if it stands behind a full stop, or if no word
follows it. -/
theorem firstFrom?_cons {dotted : Bool} {t : Token} {ts : List Token}
    (h : dotted = true ∨ t.text?.bind Kind.ofKeyword? = none ∨ ts.head?.bind Token.text? = none) :
    firstFrom? dotted (t :: ts) = firstFrom? (t == .sign '.') ts := by
  have hnone : ∀ kind name rest, dotted = false → t.text?.bind Kind.ofKeyword? = some kind →
      ts = .word name :: rest → False := by
    rintro kind name rest rfl hkind rfl
    rcases h with hdotted | hkeyword | hhead
    · cases hdotted
    · rw [hkeyword] at hkind
      cases hkind
    · cases hhead
  exact firstFrom?.eq_3 _ _ _ hnone

theorem firstFrom?_sign (dotted : Bool) (c : Char) (ts : List Token) :
    firstFrom? dotted (.sign c :: ts) = firstFrom? (c == '.') ts := by
  have hdot : (Token.sign c == Token.sign '.') = (c == '.') := by
    rw [Bool.eq_iff_iff, beq_iff_eq, beq_iff_eq, Token.sign.injEq]
  rw [firstFrom?_cons (Or.inr (Or.inl rfl)), hdot]

theorem firstFrom?_word {dotted : Bool} {text : String} {ts : List Token}
    (h : dotted = true ∨ Kind.ofKeyword? text = none ∨ ts.head?.bind Token.text? = none) :
    firstFrom? dotted (.word text :: ts) = firstFrom? false ts :=
  firstFrom?_cons h

theorem firstFrom?_keyword {keyword : String} {kind : Kind}
    (h : Kind.ofKeyword? keyword = some kind) (name : String) (ts : List Token) :
    firstFrom? false (.word keyword :: .word name :: ts) = some ⟨kind, name, ts⟩ := by
  simp [firstFrom?, Token.text?, h]

/-- Whether the search passes over tokens, and comes out of them behind no full stop. -/
def Skips (ts : List Token) : Prop :=
  ∀ rest, firstFrom? false (ts ++ rest) = firstFrom? false rest

theorem Skips.nil : Skips [] :=
  fun _ => rfl

theorem Skips.append {ts us : List Token} (h : Skips ts) (h' : Skips us) : Skips (ts ++ us) := by
  intro rest
  rw [List.append_assoc, h, h']

theorem Skips.flatMap {α : Type} {tokens : α → List Token} {l : List α}
    (h : ∀ a ∈ l, Skips (tokens a)) : Skips (l.flatMap tokens) := by
  induction l with
  | nil => exact .nil
  | cons a l ih =>
    exact (h a List.mem_cons_self).append (ih fun b hb => h b (List.mem_cons_of_mem _ hb))

end SeriesSchema.Declaration
