import Mathlib.Data.List.TakeWhile
import SeriesSchema.Proofs.ClassBody

/-!
# Initializers with lists of type arguments

In an initializer the search for declarators passes over everything up to the next comma.  Commas in
parentheses, brackets and braces are out of its sight, but those of a list of type arguments are
not: angle brackets are counted only outside initializers.  So `new HashMap<String, Integer>()` ends
at its comma, and what follows is searched as if it were another declarator.

An initializer is therefore a list of *parts* here, with commas between.  What the search makes of a
part after the first depends on what the part *exposes*: what it holds outside its brackets, up to
an `=` if it has one.

* A parenthesis takes the whole statement back, as if it were a method (`keepsNothing_parts`).
* A word is found as a field, though nothing declares it.
* A part that is `Silent` is passed over, as `?>[3]` is.

The last two need the angle brackets behind the first comma to be closed, since the search goes on
at the depth that it has reached.  Then nothing declared is lost as long as no parenthesis is
exposed, and the reading is exact if and only if all parts are silent (`strays_parts`).

1. initializers and statements;
2. what takes a statement back;
3. what is found behind the commas of an initializer;
4. statements;
5. bodies and sources.
-/

namespace SeriesSchema

/-! ## 1. Initializers and statements -/

/-- A value, or what stands between two commas of one. -/
abbrev ValuePart := { ts : List Token // ValueTokens ts }

/-- What the search sees of a part: what stands outside its brackets, up to an `=`. -/
def ValuePart.exposed (p : ValuePart) : List Token :=
  (outline p.1).takeWhile (· ≠ .sign '=')

/-- The value of a declarator, with its commas outside all brackets between the parts: those of
lists of type arguments. -/
structure Initializer where
  first : ValuePart
  more : List ValuePart := []

/-- A declarator whose value may hold lists of type arguments. -/
structure GenericDeclarator where
  name : String
  hname : name ≠ "static"
  sizes : List NestedTokens := []
  value : Option Initializer := none

namespace GenericDeclarator

/-- The declarator up to the first comma in its value. -/
def head (d : GenericDeclarator) : Declarator :=
  ⟨d.name, d.hname, d.sizes, d.value.map Initializer.first⟩

/-- The parts of the value behind its first comma. -/
def parts (d : GenericDeclarator) : List ValuePart :=
  match d.value with
  | none => []
  | some value => value.more

/-- The tokens of a declarator. -/
def tokens (d : GenericDeclarator) : List Token :=
  d.head.tokens ++ d.parts.flatMap fun p => .sign ',' :: p.1

end GenericDeclarator

/-- A field statement whose values may hold lists of type arguments. -/
structure GenericStatement where
  modifiers : List Modifier
  type : List Token
  htype : TypeTokens false type
  /-- the type is not read as more of an annotation before it -/
  hstart : annotationGoesOn type = false
  first : GenericDeclarator
  more : List GenericDeclarator := []

/-- Whether a token is neither a word nor a parenthesis. -/
def Token.Silent (t : Token) : Prop :=
  t.text? = none ∧ t ≠ .sign '('

instance (t : Token) : Decidable t.Silent :=
  inferInstanceAs (Decidable (_ ∧ _))

/-- Whether all tokens are silent. -/
def Silent (ts : List Token) : Prop :=
  ∀ t ∈ ts, t.Silent

instance (ts : List Token) : Decidable (Silent ts) :=
  inferInstanceAs (Decidable (∀ t ∈ ts, t.Silent))

/-- How many angle brackets are open after a token, of `depth` before it.  One that closes nothing
changes nothing. -/
def Token.anglesAfter (t : Token) (depth : Nat) : Nat :=
  if t = .sign '<' then depth + 1 else if t = .sign '>' then depth - 1 else depth

/-- How many angle brackets are open after tokens, of `depth` before them. -/
def angleDepth (depth : Nat) (ts : List Token) : Nat :=
  ts.foldl (fun depth t => t.anglesAfter depth) depth

/-- Whether the parts of a value close the angle brackets that they open: none is open at an `=`,
nor at the end. -/
def ClosesAngles : Nat → List ValuePart → Prop
  | depth, [] => depth = 0
  | depth, p :: ps =>
    (.sign '=' ∈ outline p.1 → angleDepth depth p.exposed = 0) ∧
      ClosesAngles (angleDepth depth p.exposed) ps

instance ClosesAngles.decidable : ∀ depth ps, Decidable (ClosesAngles depth ps)
  | depth, [] => inferInstanceAs (Decidable (depth = 0))
  | depth, p :: ps =>
    have := ClosesAngles.decidable (angleDepth depth p.exposed) ps
    inferInstanceAs (Decidable (_ ∧ _))

namespace GenericStatement

/-- The declarators of a statement. -/
def allDeclarators (s : GenericStatement) : List GenericDeclarator :=
  s.first :: s.more

/-- The tokens of a statement. -/
def tokens (s : GenericStatement) : List Token :=
  s.modifiers.flatMap Modifier.tokens ++ (s.type ++ (s.first.tokens ++
    ((s.more.flatMap fun d => .sign ',' :: d.tokens) ++ [.sign ';'])))

/-- Whether a statement declares what is shared by all instances. -/
def isStatic (s : GenericStatement) : Bool :=
  s.modifiers.any Modifier.isStatic

/-- The fields that a statement declares for each instance. -/
def names (s : GenericStatement) : List String :=
  if s.isStatic then [] else s.allDeclarators.map GenericDeclarator.name

/-- What a class reports of a statement. -/
def reported (s : GenericStatement) : List String :=
  memberFields s.tokens

/-- Whether a parenthesis is exposed behind a comma of an initializer. -/
def ExposesParenthesis (s : GenericStatement) : Prop :=
  ∃ d ∈ s.allDeclarators, ∃ p ∈ d.parts, .sign '(' ∈ p.exposed

/-- Whether nothing at all is exposed behind the commas of the initializers. -/
def IsSilent (s : GenericStatement) : Prop :=
  ∀ d ∈ s.allDeclarators, ∀ p ∈ d.parts, Silent p.exposed

/-- Whether every initializer closes the angle brackets that it opens behind its first comma. -/
def IsClosed (s : GenericStatement) : Prop :=
  ∀ d ∈ s.allDeclarators, ClosesAngles 0 d.parts

instance (s : GenericStatement) : Decidable s.ExposesParenthesis :=
  inferInstanceAs (Decidable (∃ d ∈ s.allDeclarators, ∃ p ∈ d.parts, .sign '(' ∈ p.exposed))

instance (s : GenericStatement) : Decidable s.IsSilent :=
  inferInstanceAs (Decidable (∀ d ∈ s.allDeclarators, ∀ p ∈ d.parts, Silent p.exposed))

instance (s : GenericStatement) : Decidable s.IsClosed :=
  inferInstanceAs (Decidable (∀ d ∈ s.allDeclarators, ClosesAngles 0 d.parts))

end GenericStatement

/-! ## 2. What takes a statement back -/

/-- No annotation is left in an outline. -/
theorem at_not_mem_outline (ts : List Token) : .sign '@' ∉ outline ts := by
  fun_induction outline ts with
  | case1 => simp
  | case2 ts ih => exact ih
  | case3 ts ih => simpa using ih
  | case4 ts ih => simpa using ih
  | case5 ts ih => simpa using ih
  | case6 t ts hat _ _ _ ih => simp [ih, Ne.symm hat]

/-- The search gives nothing on `ts`, in a declarator as in a value. -/
structure KeepsNothing (ts : List Token) : Prop where
  outside : ∀ last depth, declarators last depth ts = none
  inside : declaratorsAfterValue ts = none

/-- Nothing that stands before can prevent it. -/
theorem KeepsNothing.append {before ts : List Token} (hat : .sign '@' ∉ before)
    (h : KeepsNothing ts) : KeepsNothing (before ++ ts) := by
  induction before with
  | nil => exact h
  | cons t before ih =>
    have ht : t ≠ .sign '@' := fun heq => hat (heq ▸ List.mem_cons_self)
    have hnext := ih fun hmem => hat (List.mem_cons_of_mem _ hmem)
    refine ⟨declarators_cons_eq_none ht hnext.outside fun _ => hnext.inside, ?_⟩
    rw [List.cons_append]
    by_cases hcomma : t = .sign ','
    · rw [hcomma, declaratorsAfterValue, hnext.outside]
    · rw [declaratorsAfterValue, hnext.inside]
      exact hcomma

/-- A comma leads out of a value. -/
theorem KeepsNothing.comma {ts : List Token}
    (h : ∀ last depth, declarators last depth ts = none) : KeepsNothing (.sign ',' :: ts) := by
  refine ⟨declarators_cons_eq_none (by simp) h (by simp), ?_⟩
  rw [declaratorsAfterValue, h]

/-- What the reader keeps of the parts of a value behind its first comma. -/
def keptParts (ps : List ValuePart) : List Token :=
  ps.flatMap fun p => .sign ',' :: outline p.1

/-- The outline of a part is what it exposes, and perhaps an `=` and more. -/
theorem ValuePart.outline_eq (p : ValuePart) :
    ∃ behind, outline p.1 = p.exposed ++ behind ∧ .sign '=' ∉ p.exposed ∧
      (behind = [] ∨ ∃ more, behind = .sign '=' :: more) := by
  have hsplit : outline p.1 = p.exposed ++ (outline p.1).dropWhile (· ≠ .sign '=') :=
    List.takeWhile_append_dropWhile.symm
  have heq : .sign '=' ∉ p.exposed := fun h => by simpa using List.mem_takeWhile_imp h
  refine ⟨_, hsplit, heq, ?_⟩
  cases hbehind : (outline p.1).dropWhile (· ≠ .sign '=') with
  | nil => exact Or.inl rfl
  | cons t more =>
    have hne : (outline p.1).dropWhile (· ≠ .sign '=') ≠ [] := by
      rw [hbehind]
      exact List.cons_ne_nil t more
    have ht := List.head_dropWhile_not _ hne
    simp only [hbehind, List.head_cons] at ht
    exact Or.inr ⟨more, by simpa using ht⟩

theorem ValuePart.at_not_mem_exposed (p : ValuePart) : .sign '@' ∉ p.exposed :=
  fun h => at_not_mem_outline p.1 ((List.takeWhile_sublist _).mem h)

theorem ValuePart.comma_not_mem_exposed (p : ValuePart) : .sign ',' ∉ p.exposed :=
  fun h => p.2.comma_not_mem ((List.takeWhile_sublist _).mem h)

/-- **A parenthesis behind a comma of an initializer takes the statement back.** -/
theorem keepsNothing_parts {ps : List ValuePart} (h : ∃ p ∈ ps, .sign '(' ∈ p.exposed)
    (tail : List Token) : KeepsNothing (keptParts ps ++ tail) := by
  induction ps with
  | nil => simp at h
  | cons p ps ih =>
    rw [keptParts, List.flatMap_cons, List.cons_append, List.cons_append, List.append_assoc]
    obtain ⟨q, hq, hparen⟩ := h
    rcases List.mem_cons.mp hq with rfl | hmem
    · obtain ⟨behind, hsplit, heq, -⟩ := q.outline_eq
      rw [hsplit, List.append_assoc]
      exact .comma (declarators_eq_none hparen heq q.at_not_mem_exposed _)
    · have hat : .sign '@' ∉ .sign ',' :: outline p.1 := by simp [at_not_mem_outline]
      exact (ih ⟨q, hmem, hparen⟩).append hat

/-! ## 3. What is found behind the commas of an initializer -/

/-- **What the search makes of one token that a part exposes**: it finds nothing at all, or goes on
behind the token, and then holds a word only if it held one before or the token is one. -/
theorem declarators_cons_exposed {t : Token} (hat : t ≠ .sign '@') (hcomma : t ≠ .sign ',')
    (heq : t ≠ .sign '=') (last : Option String) (depth : Nat) (ts : List Token) :
    (¬ t.Silent ∧ declarators last depth (t :: ts) = none) ∨
    ∃ last', (last' = none ↔ last = none ∧ t.Silent) ∧
      declarators last depth (t :: ts) = declarators last' (t.anglesAfter depth) ts := by
  cases t with
  | literal =>
    refine Or.inr ⟨last, by simp [Token.Silent, Token.text?], ?_⟩
    rw [declarators] <;> simp [Token.anglesAfter]
  | word text =>
    have hloud : ¬ (Token.word text).Silent := by simp [Token.Silent, Token.text?]
    by_cases hstatic : text = "static"
    · exact Or.inl ⟨hloud, by rw [declarators, if_pos hstatic]⟩
    · refine Or.inr ⟨some text, by simp [hloud], ?_⟩
      rw [declarators, if_neg hstatic]
      rfl
  | sign c =>
    by_cases hparen : c = '('
    · subst hparen
      exact Or.inl ⟨by simp [Token.Silent], by rw [declarators]⟩
    · refine Or.inr ⟨last, by simp [Token.Silent, Token.text?, hparen], ?_⟩
      by_cases hopen : c = '<'
      · subst hopen
        rw [declarators]
        rfl
      by_cases hclose : c = '>'
      · subst hclose
        rw [declarators]
        rfl
      rw [declarators] <;> simp_all [Token.anglesAfter]

/-- The same for all tokens that a part exposes. -/
theorem declarators_exposed {ts : List Token} (hat : .sign '@' ∉ ts) (hcomma : .sign ',' ∉ ts)
    (heq : .sign '=' ∉ ts) (last : Option String) (depth : Nat) (rest : List Token) :
    (¬ Silent ts ∧ declarators last depth (ts ++ rest) = none) ∨
    ∃ last', (last' = none ↔ last = none ∧ Silent ts) ∧
      declarators last depth (ts ++ rest) = declarators last' (angleDepth depth ts) rest := by
  induction ts generalizing last depth with
  | nil => exact Or.inr ⟨last, by simp [Silent], rfl⟩
  | cons t ts ih =>
    simp only [List.mem_cons, not_or] at hat hcomma heq
    have hsilent : Silent (t :: ts) ↔ t.Silent ∧ Silent ts := List.forall_mem_cons
    rw [List.cons_append, hsilent]
    rcases declarators_cons_exposed (Ne.symm hat.1) (Ne.symm hcomma.1) (Ne.symm heq.1) last depth
      (ts ++ rest) with ⟨hloud, hnone⟩ | ⟨last₁, hlast₁, hstep⟩
    · exact Or.inl ⟨fun h => hloud h.1, hnone⟩
    · rw [hstep]
      rcases ih hat.2 hcomma.2 heq.2 last₁ (t.anglesAfter depth) with
        ⟨hloud, hnone⟩ | ⟨last₂, hlast₂, hrest⟩
      · exact Or.inl ⟨fun h => hloud h.2, hnone⟩
      · exact Or.inr ⟨last₂, by rw [hlast₂, hlast₁, and_assoc], hrest⟩

/-- Outside all angle brackets a word that is held becomes a name at a comma, and at the end. -/
theorem declarators_atComma {tail : List Token} (h : AtComma tail) (last : Option String) :
    declarators last 0 tail = (declaratorsAfterValue tail).map (last.toList ++ ·) := by
  obtain rfl | ⟨more, rfl⟩ := h
  · simp [declarators, declaratorsAfterValue]
  · rw [declarators, if_pos rfl, declaratorsAfterValue]

/-- What the search makes of a part: at depth 0 the word that it holds behind the part becomes a
name, else the search goes on between angle brackets. -/
theorem declarators_part (p : ValuePart) {tail : List Token} (htail : AtComma tail)
    (last : Option String) (depth : Nat)
    (hclosed : .sign '=' ∈ outline p.1 → angleDepth depth p.exposed = 0) :
    (¬ Silent p.exposed ∧ declarators last depth (outline p.1 ++ tail) = none) ∨
    ∃ last', (last' = none ↔ last = none ∧ Silent p.exposed) ∧
      (angleDepth depth p.exposed = 0 → declarators last depth (outline p.1 ++ tail) =
        (declaratorsAfterValue tail).map (last'.toList ++ ·)) ∧
      (angleDepth depth p.exposed ≠ 0 → declarators last depth (outline p.1 ++ tail) =
        declarators last' (angleDepth depth p.exposed) tail) := by
  obtain ⟨behind, hsplit, heq, hbehind⟩ := p.outline_eq
  rcases declarators_exposed p.at_not_mem_exposed p.comma_not_mem_exposed heq last depth
    (behind ++ tail) with ⟨hloud, hnone⟩ | ⟨last', hlast, hrest⟩
  · exact Or.inl ⟨hloud, by rw [hsplit, List.append_assoc, hnone]⟩
  refine Or.inr ⟨last', hlast, ?_⟩
  rw [hsplit, List.append_assoc, hrest]
  obtain rfl | ⟨more, rfl⟩ := hbehind
  · refine ⟨fun hzero => ?_, fun _ => rfl⟩
    rw [hzero, List.nil_append, declarators_atComma htail]
  · have hmem : .sign '=' ∈ outline p.1 := by simp [hsplit]
    refine ⟨fun hzero => ?_, fun hdepth => absurd (hclosed hmem) hdepth⟩
    -- what stands behind the `=` is passed over like any value
    have hcomma : .sign ',' ∉ more := fun h => p.2.comma_not_mem (by simp [hsplit, h])
    rw [hzero, List.cons_append, declarators, if_pos rfl, declaratorsAfterValue_append hcomma]

/-- What a search gives is what `rest` gives with strays before it, which are none exactly if
`quiet`; or it gives nothing at all, and `quiet` fails. -/
def Strays (quiet : Prop) (out rest : Option (List String)) : Prop :=
  (¬ quiet ∧ out = none) ∨ ∃ extra, (extra = [] ↔ quiet) ∧ out = rest.map (extra ++ ·)

/-- More of them in front. -/
theorem Strays.prepend {quiet quiet' : Prop} {out rest : Option (List String)}
    {extra : List String} (hextra : extra = [] ↔ quiet) (h : Strays quiet' out rest) :
    Strays (quiet ∧ quiet') (out.map (extra ++ ·)) rest := by
  rcases h with ⟨hloud, rfl⟩ | ⟨extra', hextra', rfl⟩
  · exact Or.inl ⟨fun hq => hloud hq.2, rfl⟩
  · refine Or.inr ⟨extra ++ extra', ?_, ?_⟩
    · rw [List.append_eq_nil_iff, hextra, hextra']
    · simp [Function.comp_def]

/-- **Parts of a value that close their angle brackets give strays**, unless all of them are silent,
and the search goes on behind the value. -/
theorem strays_parts {p : ValuePart} {ps : List ValuePart} {last : Option String} {depth : Nat}
    (hclosed : ClosesAngles depth (p :: ps)) {tail : List Token} (htail : AtComma tail) :
    Strays (last = none ∧ ∀ q ∈ p :: ps, Silent q.exposed)
      (declarators last depth (outline p.1 ++ (keptParts ps ++ tail)))
      (declaratorsAfterValue tail) := by
  induction ps generalizing p last depth with
  | nil =>
    obtain ⟨hequals, hzero⟩ := hclosed
    rw [List.forall_mem_singleton]
    rcases declarators_part p htail last depth hequals with ⟨hloud, hnone⟩ | ⟨last', hlast, hout, -⟩
    · exact Or.inl ⟨fun h => hloud h.2, hnone⟩
    · exact Or.inr ⟨last'.toList, by rw [Option.toList_eq_nil_iff, hlast], hout hzero⟩
  | cons q qs ih =>
    obtain ⟨hequals, hnext⟩ := hclosed
    have htail' : AtComma (keptParts (q :: qs) ++ tail) := Or.inr ⟨_, rfl⟩
    have hq : keptParts (q :: qs) ++ tail =
        .sign ',' :: (outline q.1 ++ (keptParts qs ++ tail)) := by
      simp [keptParts]
    rw [List.forall_mem_cons, ← and_assoc]
    rcases declarators_part p htail' last depth hequals with
      ⟨hloud, hnone⟩ | ⟨last', hlast, hzero, hdeep⟩
    · exact Or.inl ⟨fun h => hloud h.1.2, hnone⟩
    by_cases hdepth : angleDepth depth p.exposed = 0
    · -- the word held is a stray, and the next part is searched afresh
      rw [hzero hdepth, hq, declaratorsAfterValue]
      rw [hdepth] at hnext
      have hfresh : Strays ((none : Option String) = none ∧ ∀ r ∈ q :: qs, Silent r.exposed)
          (declarators none 0 (outline q.1 ++ (keptParts qs ++ tail)))
          (declaratorsAfterValue tail) := ih hnext
      simpa using hfresh.prepend (by rw [Option.toList_eq_nil_iff, hlast])
    · -- the comma is one of a list of arguments, and the search goes on
      rw [hdeep hdepth, hq, declarators, if_neg hdepth, ← hlast]
      exact ih hnext

/-! ## 4. Statements -/

theorem endsDeclarator_parts (ps : List ValuePart) {rest : List Token}
    (hrest : EndsDeclarator rest) :
    EndsDeclarator ((ps.flatMap fun p => .sign ',' :: p.1) ++ rest) := by
  cases ps with
  | nil => exact hrest
  | cons p ps => exact ⟨_, _, rfl, Or.inl rfl⟩

/-- Behind an `=` parts are read one after the other. -/
theorem leaves_parts (ps : List ValuePart) {pending rest : List Token} (heq : .sign '=' ∈ pending)
    (hrest : EndsDeclarator rest) :
    memberFieldsFrom pending.toArray ((ps.flatMap fun p => .sign ',' :: p.1) ++ rest) =
      memberFieldsFrom (pending ++ keptParts ps).toArray rest := by
  induction ps generalizing pending with
  | nil => simp [keptParts]
  | cons p ps ih =>
    rw [List.flatMap_cons, List.cons_append, List.cons_append, List.append_assoc,
      memberFieldsFrom_token _ rfl (by simp) (by simp),
      p.2.leaves (endsDeclarator_parts ps hrest) _ (List.mem_append_left _ heq), ih (by simp [heq])]
    simp [keptParts]

namespace GenericDeclarator

/-- What the reader keeps of a declarator. -/
def kept (d : GenericDeclarator) : List Token :=
  d.head.kept ++ keptParts d.parts

theorem leaves (d : GenericDeclarator) (pending : List Token) {rest : List Token}
    (hrest : EndsDeclarator rest) :
    memberFieldsFrom pending.toArray (d.tokens ++ rest) =
      memberFieldsFrom (pending ++ d.kept).toArray rest := by
  rw [tokens, List.append_assoc, d.head.leaves pending (endsDeclarator_parts d.parts hrest)]
  cases hvalue : d.value with
  | none => simp [kept, parts, hvalue, keptParts]
  | some value =>
    have heq : .sign '=' ∈ pending ++ d.head.kept := by simp [head, Declarator.kept, hvalue]
    rw [leaves_parts d.parts heq hrest, kept, List.append_assoc]

theorem at_not_mem_kept (d : GenericDeclarator) : .sign '@' ∉ d.kept := by
  have hparts : .sign '@' ∉ keptParts d.parts := by
    simp only [keptParts, List.mem_flatMap, List.mem_cons, not_exists, not_and, not_or]
    exact fun p _ => ⟨by simp, at_not_mem_outline p.1⟩
  cases hvalue : d.head.value with
  | none => simp [kept, Declarator.kept, hvalue, hparts]
  | some value => simp [kept, Declarator.kept, hvalue, hparts, at_not_mem_outline]

theorem atComma_parts (ps : List ValuePart) {tail : List Token} (htail : AtComma tail) :
    AtComma (keptParts ps ++ tail) := by
  cases ps with
  | nil => exact htail
  | cons p ps => exact Or.inr ⟨_, rfl⟩

/-- A declarator whose value closes its angle brackets declares its name, and gives strays. -/
theorem strays (d : GenericDeclarator) (hclosed : ClosesAngles 0 d.parts) {tail : List Token}
    (htail : AtComma tail) (last : Option String) : ∃ out,
    declarators last 0 (d.kept ++ tail) = out.map (d.name :: ·) ∧
      Strays (∀ p ∈ d.parts, Silent p.exposed) out (declaratorsAfterValue tail) := by
  refine ⟨_, by rw [kept, List.append_assoc, d.head.declarators_kept (atComma_parts _ htail)]; rfl,
    ?_⟩
  cases hparts : d.parts with
  | nil => exact Or.inr ⟨[], by simp, by simp [keptParts]⟩
  | cons p ps =>
    rw [hparts] at hclosed
    have hfresh : Strays ((none : Option String) = none ∧ ∀ q ∈ p :: ps, Silent q.exposed)
        (declarators none 0 (outline p.1 ++ (keptParts ps ++ tail)))
        (declaratorsAfterValue tail) := strays_parts hclosed htail
    simpa [keptParts, declaratorsAfterValue] using hfresh

end GenericDeclarator

/-- What a search finds where `names` are declared: all of them, and nothing else exactly if
`quiet`; or it finds nothing at all, and `quiet` fails. -/
inductive Finds (quiet : Prop) (names : List String) : Option (List String) → Prop
  | takenBack (h : ¬ quiet) : Finds quiet names none
  | found {found : List String} (hall : names.Sublist found) (honly : found = names ↔ quiet) :
      Finds quiet names (some found)

/-- A declarator in front of declarators. -/
theorem Finds.cons {quiet quiet' : Prop} {names : List String} {name : String}
    {out rest : Option (List String)} (hout : Strays quiet out rest) (h : Finds quiet' names rest) :
    Finds (quiet ∧ quiet') (name :: names) (out.map (name :: ·)) := by
  rcases hout with ⟨hloud, rfl⟩ | ⟨extra, hextra, rfl⟩
  · exact .takenBack fun hq => hloud hq.1
  cases h with
  | takenBack hloud => exact .takenBack fun hq => hloud hq.2
  | @found found hall honly =>
    refine .found ((hall.trans (List.sublist_append_right extra found)).cons_cons name) ?_
    rw [List.cons.injEq, and_iff_right rfl, ← hextra, ← honly]
    constructor
    · intro heq
      -- strays would make the list longer than the declared names
      have hlength := hall.length_le
      have hnil : extra = [] := by
        rw [← heq, List.length_append] at hlength
        exact List.eq_nil_of_length_eq_zero (by omega)
      exact ⟨hnil, by simpa [hnil] using heq⟩
    · rintro ⟨rfl, rfl⟩
      rfl

/-- **Declarators whose values close their angle brackets are found**, unless the statement is taken
back, and nothing else is exactly if the parts of the values are silent. -/
theorem finds_declarators (d : GenericDeclarator) (more : List GenericDeclarator)
    (hclosed : ∀ e ∈ d :: more, ClosesAngles 0 e.parts) (last : Option String) :
    Finds (∀ e ∈ d :: more, ∀ p ∈ e.parts, Silent p.exposed)
      ((d :: more).map GenericDeclarator.name)
      (declarators last 0 (d.kept ++ more.flatMap fun e => .sign ',' :: e.kept)) := by
  induction more generalizing d last with
  | nil =>
    obtain ⟨out, hout, hstrays⟩ := d.strays (hclosed d (by simp)) (Or.inl rfl) last
    rw [List.flatMap_nil, hout, List.forall_mem_singleton]
    rw [declaratorsAfterValue] at hstrays
    simpa using Finds.cons hstrays (.found (.refl []) (by simp : [] = [] ↔ True))
  | cons next more ih =>
    obtain ⟨out, hout, hstrays⟩ := d.strays (hclosed d (by simp)) (Or.inr ⟨_, rfl⟩) last
    rw [List.flatMap_cons, List.cons_append, hout, List.forall_mem_cons, List.map_cons]
    rw [declaratorsAfterValue] at hstrays
    exact .cons hstrays (ih next (fun e he => hclosed e (List.mem_cons_of_mem _ he)) none)

theorem GenericDeclarator.keepsNothing (d : GenericDeclarator)
    (h : ∃ p ∈ d.parts, .sign '(' ∈ p.exposed) (tail : List Token) :
    KeepsNothing (d.kept ++ tail) := by
  have hhead : .sign '@' ∉ d.head.kept := fun h => d.at_not_mem_kept (List.mem_append_left _ h)
  rw [kept, List.append_assoc]
  exact (keepsNothing_parts h tail).append hhead

/-- **A parenthesis exposed in any of the declarators takes all of them back.** -/
theorem keepsNothing_declarators (d : GenericDeclarator) (more : List GenericDeclarator)
    (h : ∃ e ∈ d :: more, ∃ p ∈ e.parts, .sign '(' ∈ p.exposed) :
    KeepsNothing (d.kept ++ more.flatMap fun e => .sign ',' :: e.kept) := by
  obtain ⟨e, he, hparen⟩ := h
  induction more generalizing d with
  | nil =>
    obtain rfl := List.mem_singleton.mp he
    exact e.keepsNothing hparen _
  | cons next more ih =>
    rcases List.mem_cons.mp he with rfl | hmem
    · exact e.keepsNothing hparen _
    · rw [List.flatMap_cons, List.cons_append]
      exact (KeepsNothing.comma (ih next hmem).outside).append d.at_not_mem_kept

namespace GenericStatement

/-- What the reader keeps of the declarators of a statement. -/
def kept (s : GenericStatement) : List Token :=
  s.first.kept ++ s.more.flatMap fun d => .sign ',' :: d.kept

/-- **A statement gives what the search finds in its declarators, and leaves nothing behind.** -/
theorem reads (s : GenericStatement) :
    (∃ last, s.reported = if s.isStatic then [] else (declarators last 0 s.kept).getD []) ∧
    ∀ rest, memberFieldsFrom #[] (s.tokens ++ rest) = s.reported ++ memberFieldsFrom #[] rest := by
  have hread (pending rest : List Token) (hrest : EndsDeclarator rest) :
      memberFieldsFrom pending.toArray
          ((s.first.tokens ++ s.more.flatMap fun d => .sign ',' :: d.tokens) ++ rest) =
        memberFieldsFrom (pending ++ s.kept).toArray rest := by
    rw [List.append_assoc]
    exact leaves_separated (fun d pending _ h => d.leaves pending h) s.first s.more pending hrest
  obtain ⟨last, hlast⟩ := memberFieldsFrom_statement s.modifiers s.htype s.hstart
    (fun _ => annotationGoesOn_cons (by simp) (by simp) _) hread
  have htokens (rest : List Token) : memberFieldsFrom #[] (s.tokens ++ rest) =
      (if s.isStatic then [] else (declarators last 0 s.kept).getD []) ++
        memberFieldsFrom #[] rest := by
    simpa [tokens, isStatic] using hlast rest
  have hreported := htokens []
  rw [List.append_nil, memberFieldsFrom, List.append_nil] at hreported
  refine ⟨⟨last, hreported⟩, fun rest => ?_⟩
  rw [htokens, reported, memberFields, hreported]

/-- What is reported of a statement that is not static is what the search finds. -/
theorem reported_eq (s : GenericStatement) (hstatic : s.isStatic = false) :
    ∃ last, s.reported = (declarators last 0 s.kept).getD [] := by
  obtain ⟨⟨last, heq⟩, -⟩ := s.reads
  rw [hstatic] at heq
  exact ⟨last, heq⟩

theorem reported_of_exposesParenthesis (s : GenericStatement) (hstatic : s.isStatic = false)
    (h : s.ExposesParenthesis) : s.reported = [] := by
  obtain ⟨last, heq⟩ := s.reported_eq hstatic
  rw [heq, kept, (keepsNothing_declarators s.first s.more h).outside]
  rfl

theorem reported_of_isClosed (s : GenericStatement) (hstatic : s.isStatic = false)
    (h : s.IsClosed) :
    (s.reported = [] ∨ s.names.Sublist s.reported) ∧ (s.reported = s.names ↔ s.IsSilent) := by
  obtain ⟨last, heq⟩ := s.reported_eq hstatic
  have hnames : s.names = s.allDeclarators.map GenericDeclarator.name := by
    rw [names, hstatic]
    rfl
  have hfinds : Finds s.IsSilent s.names (declarators last 0 s.kept) := by
    rw [hnames]
    exact finds_declarators s.first s.more h last
  rw [heq]
  generalize declarators last 0 s.kept = out at hfinds
  cases hfinds with
  | takenBack hloud =>
    refine ⟨Or.inl rfl, fun hnil => ?_, fun hsilent => absurd hsilent hloud⟩
    rw [hnames] at hnil
    cases hnil
  | found hall honly => exact ⟨Or.inr hall, honly⟩

theorem nested_tokens (s : GenericStatement) : Nested s.tokens := by
  have hpart (p : ValuePart) : Nested (.sign ',' :: p.1) := .token rfl rfl p.2.nested
  have hdeclarator (d : GenericDeclarator) : Nested d.tokens :=
    d.head.nested_tokens.append (nested_flatMap hpart d.parts)
  have hmore : Nested (s.more.flatMap fun d => .sign ',' :: d.tokens) :=
    nested_flatMap (fun d => .token rfl rfl (hdeclarator d)) s.more
  exact (nested_flatMap Modifier.nested_tokens s.modifiers).append
    (s.htype.nested.append ((hdeclarator s.first).append (hmore.append (.token rfl rfl .nil))))

end GenericStatement

/-! ## 5. Bodies and sources -/

/-- What may stand in the body of a class, with values that may hold lists of type arguments. -/
inductive GenericMember
  | field (s : GenericStatement)
  | other (m : Member)

namespace GenericMember

/-- The tokens of a member. -/
def tokens : GenericMember → List Token
  | field s => s.tokens
  | other m => m.tokens

/-- The fields that a member declares for each instance. -/
def names : GenericMember → List String
  | field s => s.names
  | other m => m.names

/-- What a class reports of a member. -/
def reported (m : GenericMember) : List String :=
  memberFields m.tokens

theorem reported_other (m : Member) : (other m).reported = m.names := by
  have := m.reads []
  rw [memberFieldsFrom, List.append_nil, List.append_nil] at this
  exact this

theorem reads (m : GenericMember) (rest : List Token) :
    memberFieldsFrom #[] (m.tokens ++ rest) = m.reported ++ memberFieldsFrom #[] rest := by
  cases m with
  | field s => exact s.reads.2 rest
  | other m =>
    rw [reported_other]
    exact m.reads rest

theorem nested_tokens (m : GenericMember) : Nested m.tokens := by
  cases m with
  | field s => exact s.nested_tokens
  | other m => exact m.nested_tokens

end GenericMember

/-- What a body gives is what its members give, in order. -/
theorem memberFields_genericMembers (members : List GenericMember) :
    memberFields (members.flatMap GenericMember.tokens) =
      members.flatMap GenericMember.reported := by
  rw [memberFields]
  induction members with
  | nil => simp [memberFieldsFrom]
  | cons m members ih => rw [List.flatMap_cons, List.flatMap_cons, m.reads, ih]

/-- **What a class reports when initializers hold lists of type arguments.**  Each member gives
fields of its own.  A statement that is not static gives none if a parenthesis is exposed behind a
comma of an initializer.  If the initializers close their angle brackets, it gives none or all that
it declares, and exactly what it declares if and only if nothing is exposed behind their commas. -/
theorem extract_class_initializers {source name : String} {header rest : List Token}
    {members : List GenericMember}
    (hfirst : Declaration.IsFirst (tokenize source) ⟨.classType, name,
      header ++ .sign '\x7b' :: (members.flatMap GenericMember.tokens ++ .sign '\x7d' :: rest)⟩)
    (hheader : .sign '\x7b' ∉ header) :
    Extractor.declaration.extract? source = some ⟨name, members.flatMap GenericMember.reported⟩ ∧
    (∀ m, .other m ∈ members → (GenericMember.other m).reported = m.names) ∧
    ∀ s, .field s ∈ members → s.isStatic = false →
      (s.ExposesParenthesis → (GenericMember.field s).reported = []) ∧
      (s.IsClosed →
        ((GenericMember.field s).reported = [] ∨
          s.names.Sublist (GenericMember.field s).reported) ∧
        ((GenericMember.field s).reported = s.names ↔ s.IsSilent)) := by
  have hnested : Nested (members.flatMap GenericMember.tokens) :=
    nested_flatMap GenericMember.nested_tokens members
  refine ⟨?_, fun m _ => GenericMember.reported_other m, fun s _ hstatic =>
    ⟨s.reported_of_exposesParenthesis hstatic, s.reported_of_isClosed hstatic⟩⟩
  rw [extract?_of_first? (Declaration.first?_eq_some_iff.mpr hfirst) (by decide) hheader hnested,
    Declaration.bodyFields, memberFields_genericMembers]

namespace GenericClass

/-! Three statements whose initializers hold lists of type arguments: an array, whose parts are
silent; a constructor reference, of which a word is exposed; and a constructor call, of which a
parenthesis is.  A plain statement stands after them. -/

theorem isValue_plain {ts : List Token}
    (h : ∀ t ∈ ts, t.isOpener = false ∧ t.isCloser = false ∧ t ≠ .sign ',' ∧ t ≠ .sign ';') :
    ValueTokens ts := by
  induction ts with
  | nil => exact .nil
  | cons t ts ih =>
    obtain ⟨⟨hopen, hclose, hcomma, hsemicolon⟩, hts⟩ := List.forall_mem_cons.mp h
    exact .token hopen hclose hcomma hsemicolon (ih hts)

theorem isType_wildcards : TypeTokens false
    [.word "Map", .sign '<', .sign '?', .sign ',', .sign '?', .sign '>', .sign '[', .sign ']'] := by
  have hinner : TypeTokens true [.sign '?', .sign ',', .sign '?'] :=
    .sign (by simp) (.comma (.sign (by simp) .nil))
  exact .word (by decide) (.arguments hinner (.brackets .nil .nil))

theorem isType_map : TypeTokens false
    [.word "Map", .sign '<', .word "String", .sign ',', .word "Integer", .sign '>'] := by
  have hinner : TypeTokens true [.word "String", .sign ',', .word "Integer"] :=
    .word (by decide) (.comma (.word (by decide) .nil))
  exact .word (by decide) (.arguments hinner .nil)

theorem isValue_array : ValueTokens [.sign '?', .sign '>', .sign '[', .word "3", .sign ']'] := by
  have hsize : ValueTokens (.sign '[' :: ([.word "3"] ++ .sign ']' :: [])) :=
    .group rfl rfl (by decide) .nil
  exact .token rfl rfl (by decide) (by decide) (.token rfl rfl (by decide) (by decide) hsize)

theorem isValue_reference : ValueTokens
    [.word "B", .sign '>', .sign ':', .sign ':', .word "new"] :=
  isValue_plain (by decide)

theorem isValue_call : ValueTokens [.word "Integer", .sign '>', .sign '(', .sign ')'] := by
  have harguments : ValueTokens (.sign '(' :: ([] ++ .sign ')' :: [])) := .group rfl rfl .nil .nil
  exact .token rfl rfl (by decide) (by decide) (.token rfl rfl (by decide) (by decide) harguments)

/-- The statement `Map<?, ?>[] x = new Map<?, ?>[3], y;`. -/
def array : GenericStatement where
  modifiers := []
  type := _
  htype := isType_wildcards
  hstart := rfl
  first := ⟨"x", by decide, [],
    some ⟨⟨[.word "new", .word "Map", .sign '<', .sign '?'], isValue_plain (by decide)⟩,
      [⟨_, isValue_array⟩]⟩⟩
  more := [⟨"y", by decide, [], none⟩]

/-- The statement `Maker p = Pair<A, B>::new;`. -/
def reference : GenericStatement where
  modifiers := []
  type := [.word "Maker"]
  htype := .word (by decide) .nil
  hstart := rfl
  first := ⟨"p", by decide, [],
    some ⟨⟨[.word "Pair", .sign '<', .word "A"], isValue_plain (by decide)⟩,
      [⟨_, isValue_reference⟩]⟩⟩

/-- The statement `Map<String, Integer> m = new HashMap<String, Integer>();`. -/
def call : GenericStatement where
  modifiers := []
  type := _
  htype := isType_map
  hstart := rfl
  first := ⟨"m", by decide, [],
    some ⟨⟨[.word "new", .word "HashMap", .sign '<', .word "String"], isValue_plain (by decide)⟩,
      [⟨_, isValue_call⟩]⟩⟩

/-- The statement `long size;`. -/
def plain : GenericStatement where
  modifiers := []
  type := [.word "long"]
  htype := .word (by decide) .nil
  hstart := rfl
  first := ⟨"size", by decide, [], none⟩

def source : String :=
  "class A \x7b Map<?, ?>[] x = new Map<?, ?>[3], y; Maker p = Pair<A, B>::new; " ++
  "Map<String, Integer> m = new HashMap<String, Integer>(); long size; \x7d"

def members : List GenericMember :=
  [.field array, .field reference, .field call, .field plain]

theorem isFirst : Declaration.IsFirst (tokenize source) ⟨.classType, "A",
    [] ++ .sign '\x7b' :: (members.flatMap GenericMember.tokens ++ .sign '\x7d' :: [])⟩ :=
  Declaration.first?_eq_some_iff.mp (by decide +kernel)

end GenericClass

open GenericClass in
theorem extract_class_initializers_threeValues :
    Declaration.IsFirst (tokenize source) ⟨.classType, "A",
      [] ++ .sign '\x7b' :: (members.flatMap GenericMember.tokens ++ .sign '\x7d' :: [])⟩ ∧
    .sign '\x7b' ∉ ([] : List Token) ∧
    Extractor.declaration.extract? source = some ⟨"A", members.flatMap GenericMember.reported⟩ ∧
    (GenericMember.field array).reported = ["x", "y"] ∧
    (GenericMember.field reference).reported ≠ ["p"] ∧
    (GenericMember.field call).reported = [] := by
  obtain ⟨hextract, -, hfields⟩ := extract_class_initializers isFirst (by simp)
  have harray := hfields array (by simp [members]) rfl
  have hreference := hfields reference (by simp [members]) rfl
  have hcall := hfields call (by simp [members]) rfl
  have hloud : ¬ reference.IsSilent := by decide +kernel
  exact ⟨isFirst, by simp, hextract,
    (harray.2 (by decide +kernel)).2.mpr (by decide +kernel),
    fun heq => hloud ((hreference.2 (by decide +kernel)).2.mp heq),
    hcall.1 (by decide +kernel)⟩

open GenericClass in
/-- The class declares `m` and `size`, and `size` alone is reported: the comma in `<String, Integer>`
ends the value, and the parenthesis behind it takes the statement back. -/
theorem extract_class_constructorCall :
    Declaration.IsFirst
      (tokenize
        "class A \x7b Map<String, Integer> m = new HashMap<String, Integer>(); long size; \x7d")
      ⟨.classType, "A", [] ++ .sign '\x7b' ::
        ([.field call, .field plain].flatMap GenericMember.tokens ++ .sign '\x7d' :: [])⟩ ∧
    call.isStatic = false ∧ plain.isStatic = false ∧
    [.field call, .field plain].flatMap GenericMember.names = ["m", "size"] ∧
    Extractor.declaration.extract?
      "class A \x7b Map<String, Integer> m = new HashMap<String, Integer>(); long size; \x7d" =
        some ⟨"A", ["size"]⟩ :=
  ⟨Declaration.first?_eq_some_iff.mp (by decide +kernel), rfl, rfl, rfl, by decide +kernel⟩

end SeriesSchema
