import SeriesSchema.Proofs.CheckedReads
import SeriesSchema.Proofs.FirstDeclaration
import SeriesSchema.Proofs.Nested

/-!
# Positions among tokens

The readers of groups and declarations take what is left of the tokens, and give back what is left
then.  Here each of them has a twin that keeps a position in one list of tokens: it skips a group
or an annotation by a jump to the position behind it, and takes what a group holds as a slice.
Nothing in how it is written holds it to its list or makes it end, which is why it reads
under the checks of `SeriesSchema.Proofs.CheckedReads`.

The twins agree with the readers: what is left behind the position that one of them jumps to is what
its reader gives back.  From this, and from the bounds on a jump, every loop advances within the
list.  Depth alone decides where a group ends, and a group that nothing closes ends with the tokens.
The slice then goes up to a closer at their end, if there is one, or to the end, and it lies
in the list in each case (`innerEnd_inRange`).

1. groups: the bounds on where they end, and what they hold if they are nested;
2. annotations;
3. the constants of an enumeration;
4. the names of a statement or a component list;
5. the members of a body;
6. declarations and their fields.
-/

namespace SeriesSchema.Positions

variable {ts rest : List Token} {t : Token} {i rounds : Nat}

/-! ## 1. Groups -/

/-- The position behind the closer that leaves no group open, if there is one.  The tokens begin at
the position `i`, and `depth` groups are open before them. -/
def behindCloser? : Nat → Nat → List Token → Option Nat
  | _, _, [] => none
  | depth, i, t :: ts =>
    if t.isOpener then behindCloser? (depth + 1) (i + 1) ts
    else if t.isCloser then
      if depth - 1 = 0 then some (i + 1) else behindCloser? (depth - 1) (i + 1) ts
    else behindCloser? depth (i + 1) ts

/-- The position behind the group that the bracket at `i` opens: behind its closer, or behind the
last token if nothing closes it. -/
def groupEnd (ts : List Token) (i : Nat) : Nat :=
  (behindCloser? 0 i (ts.drop i)).getD ts.length

/-- The position behind what the group at `i` holds: that of the closer right before its end. -/
def innerEnd (ts : List Token) (i : Nat) : Nat :=
  if ts[groupEnd ts i - 1]?.any Token.isCloser ∧ i + 1 < groupEnd ts i then groupEnd ts i - 1
  else groupEnd ts i

/-- What the group at `i` holds, and the position behind it. -/
def group (ts : List Token) (i : Nat) : Checked (List Token × Nat) := do
  let inner ← slice ts (i + 1) (innerEnd ts i)
  return (inner, groupEnd ts i)

/-- Inside a group, the closer is the one that the group is split at. -/
theorem behindCloser?_succ (depth i : Nat) (ts : List Token) :
    behindCloser? (depth + 1) i ts =
      (splitAtCloser depth ts).map fun p => i + p.1.length + 1 := by
  induction ts generalizing depth i with
  | nil => rfl
  | cons t ts ih =>
    -- the token belongs to what the group holds
    have hshift : (fun p : List Token × List Token => i + 1 + p.1.length + 1) =
        fun p => i + (t :: p.1).length + 1 := by
      funext p
      simp only [List.length_cons]
      omega
    rw [behindCloser?, splitAtCloser, Token.depthAfter]
    cases hopen : t.isOpener with
    | true => simp [Token.isCloser_of_isOpener hopen, ih, hshift, Function.comp_def]
    | false =>
      cases hclose : t.isCloser with
      | false => simp [ih, hshift, Function.comp_def]
      | true =>
        cases depth with
        | zero => simp
        | succ depth => simp [ih, hshift, Function.comp_def]

/-- **A group ends behind its closer, or with the tokens.** -/
theorem groupEnd_cases (h : ts.drop i = t :: rest) (hopen : t.isOpener = true) :
    (∃ inner closer after, splitAtCloser 0 rest = some (inner, after) ∧ closer.isCloser = true ∧
      rest = inner ++ closer :: after ∧ groupEnd ts i = i + inner.length + 2) ∨
    (splitAtCloser 0 rest = none ∧ groupEnd ts i = ts.length) := by
  have hend : groupEnd ts i =
      ((splitAtCloser 0 rest).map fun p => i + 1 + p.1.length + 1).getD ts.length := by
    rw [groupEnd, h, behindCloser?, if_pos hopen, behindCloser?_succ]
  cases hsplit : splitAtCloser 0 rest with
  | none => exact Or.inr ⟨rfl, by rw [hend, hsplit]; rfl⟩
  | some p =>
    obtain ⟨closer, hclose, heq⟩ := eq_append_of_splitAtCloser hsplit
    refine Or.inl ⟨p.1, closer, p.2, rfl, hclose, heq, ?_⟩
    rw [hend, hsplit, Option.map_some, Option.getD_some]
    omega

/-- The length of a list of tokens with a bracket at `i`. -/
theorem length_of_drop (h : ts.drop i = t :: rest) : ts.length = i + 1 + rest.length := by
  have hi := lt_length_of_drop h
  have hlen := congrArg List.length h
  rw [List.length_drop, List.length_cons] at hlen
  omega

theorem groupEnd_inRange (h : ts.drop i = t :: rest) (hopen : t.isOpener = true) :
    i < groupEnd ts i ∧ groupEnd ts i ≤ ts.length := by
  have hlen := length_of_drop h
  rcases groupEnd_cases h hopen with ⟨inner, closer, after, -, -, rfl, hend⟩ | ⟨-, hend⟩
  · rw [List.length_append, List.length_cons] at hlen
    omega
  · omega

/-- **What is left behind a group is what follows it.** -/
theorem drop_groupEnd (h : ts.drop i = t :: rest) (hopen : t.isOpener = true) :
    ts.drop (groupEnd ts i) = groupRest rest := by
  rw [groupRest, splitGroup]
  rcases groupEnd_cases h hopen with ⟨inner, closer, after, hsplit, -, hrest, hend⟩ | ⟨hsplit, hend⟩
  · have hbehind : ts.drop (i + inner.length + 2) = rest.drop (inner.length + 1) :=
      drop_behind h (inner.length + 1)
    rw [hsplit, Option.getD_some, hend, hbehind, hrest, ← List.drop_drop, List.drop_left]
    rfl
  · rw [hsplit, Option.getD_none, hend, List.drop_length]

/-- The slice of a group is as long as what the group holds. -/
theorem innerEnd_eq (h : ts.drop i = t :: rest) (hopen : t.isOpener = true) :
    innerEnd ts i = i + 1 + (splitGroup rest).1.length := by
  have hlen := length_of_drop h
  have hitem : ∀ n, ts[i + 1 + n]? = rest[n]? := by
    intro n
    rw [← (drop_eq_cons_iff.mp h).2, List.getElem?_drop]
  rw [innerEnd, splitGroup]
  rcases groupEnd_cases h hopen with
    ⟨inner, closer, after, hsplit, hclose, rfl, hend⟩ | ⟨hsplit, hend⟩
  · have hcloser : ts[groupEnd ts i - 1]? = some closer := by
      rw [hend, show i + inner.length + 2 - 1 = i + 1 + inner.length by omega, hitem]
      simp
    rw [hcloser, if_pos ⟨hclose, by omega⟩, hsplit]
    show groupEnd ts i - 1 = i + 1 + inner.length
    omega
  · rw [hsplit, Option.getD_none, dropLastCloser, hend]
    cases rest with
    | nil =>
      rw [List.length_nil] at hlen
      rw [if_neg (by omega)]
      simpa using hlen
    | cons u more =>
      rw [List.length_cons] at hlen
      have hlast : ts[ts.length - 1]? = (u :: more).getLast? := by
        rw [List.getLast?_eq_getElem?, ← hitem, hlen]
        congr 1
      rw [hlast]
      by_cases hclose : (u :: more).getLast?.any Token.isCloser = true
      · rw [if_pos ⟨hclose, by omega⟩, if_pos hclose, List.length_dropLast, List.length_cons]
        omega
      · rw [if_neg fun hboth => hclose hboth.1, if_neg hclose, List.length_cons]
        exact hlen

/-- What a group holds is no longer than its tokens. -/
theorem length_splitGroup_le (ts : List Token) : (splitGroup ts).1.length ≤ ts.length := by
  have hfront := splitGroup_prefix ts
  exact hfront.length_le

theorem innerEnd_inRange (h : ts.drop i = t :: rest) (hopen : t.isOpener = true) :
    i + 1 ≤ innerEnd ts i ∧ innerEnd ts i ≤ ts.length := by
  have hlen := length_of_drop h
  have hinner := length_splitGroup_le rest
  rw [innerEnd_eq h hopen]
  omega

/-- **The slice of a group lies in the list, and holds what the group holds.** -/
theorem group_eq_ok (h : ts.drop i = t :: rest) (hopen : t.isOpener = true) :
    group ts i = .ok ((splitGroup rest).1, groupEnd ts i) := by
  obtain ⟨hstart, hend⟩ := innerEnd_inRange h hopen
  have hfront := splitGroup_prefix rest
  have htake : rest.take (splitGroup rest).1.length = (splitGroup rest).1 :=
    (List.prefix_iff_eq_take.mp hfront).symm
  have hslice : slice ts (i + 1) (innerEnd ts i) = .ok (splitGroup rest).1 := by
    refine slice_eq_ok_iff.mpr ⟨⟨hstart, hend⟩, ?_⟩
    rw [(drop_eq_cons_iff.mp h).2, innerEnd_eq h hopen, Nat.add_sub_cancel_left, htake]
  rw [group, hslice]
  rfl

/-- **A nested group ends behind its closer, and holds what stands between**, whatever follows. -/
theorem group_of_nested (front : List Token) {opener closer : Token} {inner : List Token}
    (hopen : opener.isOpener = true) (hinner : Nested inner) (hclose : closer.isCloser = true)
    (rest : List Token) :
    groupEnd (front ++ opener :: (inner ++ closer :: rest)) front.length =
        front.length + 1 + inner.length + 1 ∧
      group (front ++ opener :: (inner ++ closer :: rest)) front.length =
        .ok (inner, front.length + 1 + inner.length + 1) := by
  have hdrop : (front ++ opener :: (inner ++ closer :: rest)).drop front.length =
      opener :: (inner ++ closer :: rest) := List.drop_left
  have hsplit : splitAtCloser 0 (inner ++ closer :: rest) = some (inner, rest) := by
    simp [splitAtCloser_append hinner, splitAtCloser, hclose]
  have hend : groupEnd (front ++ opener :: (inner ++ closer :: rest)) front.length =
      front.length + 1 + inner.length + 1 := by
    rw [groupEnd, hdrop, behindCloser?, if_pos hopen, behindCloser?_succ, hsplit]
    rfl
  refine ⟨hend, ?_⟩
  rw [group_eq_ok hdrop hopen, hend, splitGroup_of_nested hinner hclose]

/-- The position behind the group at `i` if the sign `c` opens it; else `i`. -/
def behindGroup (c : Char) (ts : List Token) (i : Nat) : Nat :=
  if ts[i]? = some (.sign c) then groupEnd ts i else i

theorem behindGroup_of_sign {c : Char} (h : ts.drop i = .sign c :: rest) :
    behindGroup c ts i = groupEnd ts i :=
  if_pos (drop_eq_cons_iff.mp h).1

theorem behindGroup_of_ne {c : Char} (h : ∀ rest, ts.drop i ≠ .sign c :: rest) :
    behindGroup c ts i = i :=
  if_neg fun hsign => h _ (drop_eq_cons_iff.mpr ⟨hsign, rfl⟩)

theorem behindGroup_inRange {c : Char} (hc : (Token.sign c).isOpener = true)
    (hi : i ≤ ts.length) : i ≤ behindGroup c ts i ∧ behindGroup c ts i ≤ ts.length := by
  by_cases hsign : ts[i]? = some (.sign c)
  · have hdrop := drop_eq_cons_iff.mpr ⟨hsign, rfl⟩
    have := groupEnd_inRange hdrop hc
    rw [behindGroup_of_sign hdrop]
    omega
  · rw [behindGroup, if_neg hsign]
    exact ⟨Nat.le_refl i, hi⟩

theorem drop_behindGroup_arguments (ts : List Token) (i : Nat) :
    ts.drop (behindGroup '(' ts i) = argumentsRest (ts.drop i) := by
  rw [argumentsRest.eq_def]
  split
  · rename_i rest h
    rw [behindGroup_of_sign h, drop_groupEnd h rfl]
  · rename_i h
    rw [behindGroup_of_ne h]

theorem drop_behindGroup_body (ts : List Token) (i : Nat) :
    ts.drop (behindGroup '{' ts i) = bodyRest (ts.drop i) := by
  rw [bodyRest.eq_def]
  split
  · rename_i rest h
    rw [behindGroup_of_sign h, drop_groupEnd h rfl]
  · rename_i h
    rw [behindGroup_of_ne h]

/-! ## 2. Annotations -/

/-- The word at a position, if there is one. -/
def wordAt? (ts : List Token) (i : Nat) : Option String :=
  ts[i]?.bind Token.text?

theorem wordAt?_eq_some_iff {text : String} :
    wordAt? ts i = some text ↔ ts[i]? = some (.word text) := by
  rw [wordAt?, Option.bind_eq_some_iff]
  constructor
  · rintro ⟨t, ht, htext⟩
    cases t with
    | word text' =>
      obtain rfl : text' = text := Option.some.inj htext
      exact ht
    | sign c => cases htext
    | literal => cases htext
  · exact fun h => ⟨_, h, rfl⟩

/-- The position behind a word at `i`; if there is none, `i`. -/
def behindWord (ts : List Token) (i : Nat) : Nat :=
  if (wordAt? ts i).isSome then i + 1 else i

/-- One round over the dotted words of a name. -/
def qualifierRound (ts : List Token) (i : Nat) : Checked (Round Nat Nat) :=
  if ts[i]? = some (.sign '.') ∧ (wordAt? ts (i + 1)).isSome then .ok (.goesOn (i + 2))
  else .ok (.done i)

/-- The position behind the annotation whose `@` stands at `i`. -/
def annotationEnd (rounds : Nat) (ts : List Token) (i : Nat) : Checked Nat := do
  let named ← loop (qualifierRound ts) rounds (behindWord ts (i + 1))
  return behindGroup '(' ts named

theorem behindWord_spec (hi : i ≤ ts.length) :
    i ≤ behindWord ts i ∧ behindWord ts i ≤ ts.length ∧
      qualifiersRest (ts.drop (behindWord ts i)) = annotationNameRest (ts.drop i) := by
  rw [annotationNameRest.eq_def]
  split
  · rename_i text rest h
    obtain ⟨hword, hrest⟩ := drop_eq_cons_iff.mp h
    have hlt := lt_length_of_drop h
    have hbehind : behindWord ts i = i + 1 := by
      rw [behindWord, wordAt?_eq_some_iff.mpr hword]
      rfl
    rw [hbehind, hrest]
    exact ⟨by omega, by omega, rfl⟩
  · rename_i hnot
    rw [behindWord, if_neg]
    · exact ⟨Nat.le_refl i, hi, rfl⟩
    · intro hsome
      obtain ⟨text, htext⟩ := Option.isSome_iff_exists.mp hsome
      exact hnot text _ (drop_eq_cons_iff.mpr ⟨wordAt?_eq_some_iff.mp htext, rfl⟩)

/-- **The dotted words of a name are passed one after the other.** -/
theorem loop_qualifierRound (hi : i ≤ ts.length) (hrounds : ts.length < rounds) :
    ∃ j, loop (qualifierRound ts) rounds i = .ok j ∧ i ≤ j ∧ j ≤ ts.length ∧
      ts.drop j = qualifiersRest (ts.drop i) := by
  refine loop_ends
    (fun j => i ≤ j ∧ j ≤ ts.length ∧ qualifiersRest (ts.drop j) = qualifiersRest (ts.drop i))
    (fun j => ts.length - j) _ ?_ ⟨Nat.le_refl i, hi, rfl⟩
    (Nat.lt_of_le_of_lt (Nat.sub_le _ _) hrounds)
  rintro j ⟨hij, hj, hrest⟩
  rw [qualifiersRest.eq_def (ts.drop j)] at hrest
  split at hrest
  · -- a full stop and a word: the round takes both
    rename_i text more h
    obtain ⟨hdot, hnext⟩ := drop_eq_cons_iff.mp h
    obtain ⟨hword, hmore⟩ := drop_eq_cons_iff.mp hnext
    have hlt := lt_length_of_drop hnext
    refine Or.inr ⟨j + 2, ?_, ⟨by omega, by omega, ?_⟩, Nat.sub_lt_sub_left (by omega) (by omega)⟩
    · rw [qualifierRound, if_pos ⟨hdot, by rw [wordAt?_eq_some_iff.mpr hword]; rfl⟩]
    · rw [hmore, hrest]
  · rename_i hnot
    refine Or.inl ⟨j, if_neg ?_, hij, hj, hrest⟩
    rintro ⟨hdot, hsome⟩
    obtain ⟨text, htext⟩ := Option.isSome_iff_exists.mp hsome
    have hword := wordAt?_eq_some_iff.mp htext
    exact hnot text _ (drop_eq_cons_iff.mpr ⟨hdot, drop_eq_cons_iff.mpr ⟨hword, rfl⟩⟩)

theorem annotationRest_eq (ts : List Token) :
    annotationRest ts = argumentsRest (annotationNameRest ts) := by
  rw [annotationRest]
  exact (argumentsRest.eq_def _).symm

/-- **An annotation ends behind its sign and within the tokens**, and what is left there is what
follows it. -/
theorem annotationEnd_eq_ok (hi : i < ts.length) (hrounds : ts.length < rounds) :
    ∃ j, annotationEnd rounds ts i = .ok j ∧ i < j ∧ j ≤ ts.length ∧
      ts.drop j = annotationRest (ts.drop (i + 1)) := by
  obtain ⟨hstart, hend, hname⟩ := behindWord_spec (show i + 1 ≤ ts.length from hi)
  obtain ⟨named, hloop, hle, hnamed, hrest⟩ := loop_qualifierRound hend hrounds
  obtain ⟨hle', hbehind⟩ := behindGroup_inRange (c := '(') rfl hnamed
  refine ⟨behindGroup '(' ts named, ?_, by omega, hbehind, ?_⟩
  · rw [annotationEnd, hloop]
    rfl
  · rw [drop_behindGroup_arguments, hrest, hname, annotationRest_eq]

/-! ## 3. Constants -/

/-- What the token at a position of an enumeration's body does, once the constants `names` have been
read. -/
def constantsStep (rounds : Nat) (body : List Token) (i : Nat) (names : List String) :
    Token → Checked (Round (Nat × List String) (List String))
  | .sign '@' => do return .goesOn (← annotationEnd rounds body i, names)
  | .sign ';' => return .done names
  | .word name =>
    return .goesOn (behindGroup '{' body (behindGroup '(' body (i + 1)), names ++ [name])
  | _ => return .goesOn (i + 1, names)

/-- The constants of an enumeration. -/
def readConstants (rounds : Nat) (body : List Token) : Checked (List String) :=
  walk rounds body (constantsStep rounds body) (fun _ names => names) 0 []

/-- **The constants are read within the body.** -/
theorem readConstants_eq_ok {body : List Token} (hrounds : body.length < rounds) :
    readConstants rounds body = .ok (constantNames body) := by
  refine walk_eq_ok (fun _ _ => True) (fun i names => names ++ constantNames (body.drop i))
    ?_ ?_ trivial hrounds
  · intro i names hdrop _
    rw [hdrop, constantNames, List.append_nil]
  · intro i names t rest hdrop _
    have hi : i + 1 ≤ body.length := lt_length_of_drop hdrop
    have hrest := (drop_eq_cons_iff.mp hdrop).2
    rw [hdrop]
    unfold constantsStep
    split
    · obtain ⟨j, hj, hij, -, hbehind⟩ := annotationEnd_eq_ok hi hrounds
      refine Or.inr ⟨j, names, by rw [hj]; rfl, hij, trivial, ?_⟩
      rw [hbehind, hrest, constantNames]
    · left
      rw [constantNames, List.append_nil]
      rfl
    · rename_i name
      have harguments := behindGroup_inRange (c := '(') rfl hi
      have hbody := behindGroup_inRange (c := '{') rfl harguments.2
      refine Or.inr ⟨_, _, rfl, by omega, trivial, ?_⟩
      rw [drop_behindGroup_body, drop_behindGroup_arguments, hrest, constantNames]
      simp
    · refine Or.inr ⟨_, _, rfl, Nat.lt_succ_self i, trivial, ?_⟩
      rw [hrest, constantNames] <;> assumption

/-! ## 4. Declarators -/

/-- What has been read of a statement: the names declared, the word read last, whether a value is
being skipped, and how many angle brackets are open. -/
structure Pending where
  names : List String := []
  last : Option String := none
  inValue : Bool := false
  depth : Nat := 0

namespace Pending

/-- What has been read after one more token; nothing if the token takes the statement back. -/
def read? (p : Pending) (t : Token) : Option Pending :=
  if p.inValue then some { p with inValue := t != .sign ',' }
  else
    match t with
    | .word text => if text = "static" then none else some { p with last := some text }
    | .sign '(' => none
    | .sign '<' => some { p with depth := p.depth + 1 }
    | .sign '>' => some { p with depth := p.depth - 1 }
    | .sign ',' =>
      if p.depth = 0 then some { p with names := p.names ++ p.last.toList, last := none }
      else some p
    | .sign '=' =>
      if p.depth = 0 then
        some { p with names := p.names ++ p.last.toList, last := none, inValue := true }
      else some p
    | _ => some p

/-- The names declared once the tokens have ended. -/
def finish (p : Pending) : List String :=
  if p.inValue then p.names else p.names ++ p.last.toList

/-- A value begins where no word is in hand and no angle bracket is open. -/
def IsValid (p : Pending) : Prop :=
  p.inValue = true → p.last = none ∧ p.depth = 0

/-- What is declared in all if the tokens `ts` are left. -/
def declared (p : Pending) (ts : List Token) : List String :=
  ((if p.inValue then declaratorsAfterValue ts else declarators p.last p.depth ts).map
    (p.names ++ ·)).getD []

end Pending

/-- What the token at a position of a statement does. -/
def declaratorStep (rounds : Nat) (statement : List Token) (i : Nat) (p : Pending) (t : Token) :
    Checked (Round (Nat × Pending) (List String)) :=
  if t = .sign '@' ∧ p.inValue = false then do
    return .goesOn (← annotationEnd rounds statement i, p)
  else
    match p.read? t with
    | some p' => return .goesOn (i + 1, p')
    | none => return .done []

/-- The names that a statement or a component list declares. -/
def readDeclarators (rounds : Nat) (statement : List Token) : Checked (List String) :=
  walk rounds statement (declaratorStep rounds statement) (fun _ => Pending.finish) 0 {}

namespace Pending

variable {p p' : Pending}

theorem declared_nil (p : Pending) : p.declared [] = p.finish := by
  rw [declared, declaratorsAfterValue, declarators, finish]
  cases p.inValue <;> simp

theorem declared_of_not_inValue (h : p.inValue = false) (ts : List Token) :
    p.declared ts = ((declarators p.last p.depth ts).map (p.names ++ ·)).getD [] := by
  rw [declared, h]
  rfl

theorem declared_annotation (h : p.inValue = false) (rest : List Token) :
    p.declared (.sign '@' :: rest) = p.declared (annotationRest rest) := by
  rw [declared_of_not_inValue h, declared_of_not_inValue h, declarators]

/-- **A token that takes the statement back leaves nothing declared.** -/
theorem declared_of_read?_eq_none (h : p.read? t = none) (rest : List Token) :
    p.declared (t :: rest) = [] := by
  unfold read? at h
  split at h
  · cases h
  · rename_i hvalue
    rw [declared, if_neg hvalue]
    split at h
    · split at h
      · rename_i hstatic
        rw [declarators, if_pos hstatic]
        rfl
      · cases h
    · rw [declarators]
      rfl
    · cases h
    · cases h
    · split at h <;> cases h
    · split at h <;> cases h
    · cases h

/-- **Every other token leaves as much declared as there was.** -/
theorem declared_of_read?_eq_some (hp : p.IsValid) (hat : ¬ (t = .sign '@' ∧ p.inValue = false))
    (h : p.read? t = some p') (rest : List Token) :
    p'.IsValid ∧ p'.declared rest = p.declared (t :: rest) := by
  obtain ⟨names, last, inValue, depth⟩ := p
  cases inValue with
  | true =>
    obtain ⟨rfl, rfl⟩ := hp rfl
    obtain rfl := Option.some.inj h
    refine ⟨fun _ => ⟨rfl, rfl⟩, ?_⟩
    by_cases hcomma : t = .sign ','
    · subst hcomma
      simp [declared, declaratorsAfterValue]
    · have hskip : declaratorsAfterValue (t :: rest) = declaratorsAfterValue rest := by
        rw [declaratorsAfterValue]
        exact hcomma
      simp [declared, hcomma, hskip]
  | false =>
    have hplain : ∀ {q : Pending} {names : List String}, some q = some p' → q.inValue = false →
        q.declared rest = names → p'.IsValid ∧ p'.declared rest = names := by
      intro q names hq hvalue hnames
      obtain rfl := Option.some.inj hq
      refine ⟨fun htrue => ?_, hnames⟩
      rw [hvalue] at htrue
      cases htrue
    rw [declared_of_not_inValue (p := ⟨names, last, false, depth⟩) rfl]
    unfold read? at h
    rw [if_neg Bool.false_ne_true] at h
    split at h
    · split at h
      · cases h
      · rename_i hstatic
        exact hplain h rfl (by rw [declared_of_not_inValue rfl, declarators, if_neg hstatic])
    · cases h
    · exact hplain h rfl (by rw [declared_of_not_inValue rfl, declarators])
    · exact hplain h rfl (by rw [declared_of_not_inValue rfl, declarators])
    · -- a comma outside angle brackets ends a declarator
      rw [declarators]
      split at h
      · rename_i hdepth
        obtain rfl : depth = 0 := hdepth
        refine hplain h rfl ?_
        rw [declared_of_not_inValue rfl, if_pos rfl]
        simp [Function.comp_def]
      · rename_i hdepth
        exact hplain h rfl (by rw [declared_of_not_inValue rfl, if_neg hdepth])
    · -- and so does an equals sign, behind which a value begins
      rw [declarators]
      split at h
      · rename_i hdepth
        obtain rfl : depth = 0 := hdepth
        obtain rfl := Option.some.inj h
        refine ⟨fun _ => ⟨rfl, rfl⟩, ?_⟩
        simp [declared, Function.comp_def]
      · rename_i hdepth
        exact hplain h rfl (by rw [declared_of_not_inValue rfl, if_neg hdepth])
    · have hnot : t ≠ .sign '@' := fun heq => hat ⟨heq, rfl⟩
      refine hplain h rfl ?_
      rw [declared_of_not_inValue rfl, declarators] <;> assumption

end Pending

/-- **The declarators are read within the statement.** -/
theorem readDeclarators_eq_ok {statement : List Token} (hrounds : statement.length < rounds) :
    readDeclarators rounds statement = .ok (declaratorNames statement) := by
  have hstart : declaratorNames statement = ({} : Pending).declared (statement.drop 0) := by
    simp [declaratorNames, Pending.declared]
  rw [hstart]
  refine walk_eq_ok (fun _ => Pending.IsValid) (fun i p => p.declared (statement.drop i)) ?_ ?_
    (fun h => by cases h) hrounds
  · intro i p hdrop _
    rw [hdrop, Pending.declared_nil]
  · intro i p t rest hdrop hp
    have hi := lt_length_of_drop hdrop
    have hrest := (drop_eq_cons_iff.mp hdrop).2
    rw [hdrop]
    unfold declaratorStep
    split
    · rename_i hat
      obtain ⟨rfl, hvalue⟩ := hat
      obtain ⟨j, hj, hij, -, hbehind⟩ := annotationEnd_eq_ok hi hrounds
      refine Or.inr ⟨j, p, by rw [hj]; rfl, hij, hp, ?_⟩
      rw [hbehind, hrest, Pending.declared_annotation hvalue]
    · rename_i hat
      cases hread : p.read? t with
      | none =>
        left
        rw [Pending.declared_of_read?_eq_none hread]
        rfl
      | some p' =>
        obtain ⟨hp', hkept⟩ := Pending.declared_of_read?_eq_some hp hat hread rest
        exact Or.inr ⟨i + 1, p', rfl, Nat.lt_succ_self i, hp', by rw [hrest, hkept]⟩

/-! ## 5. Members -/

/-- What the token at a position of a body does, once the tokens `s.1` of a statement and the fields
`s.2` have been read. -/
def memberStep (rounds : Nat) (members : List Token) (i : Nat) (s : Array Token × List String) :
    Token → Checked (Round (Nat × Array Token × List String) (List String))
  | .sign '@' => do return .goesOn (← annotationEnd rounds members i, s)
  | .sign '{' =>
    return .goesOn (groupEnd members i,
      if s.1.contains (.sign '=') then s.1.push .literal else #[], s.2)
  | .sign '(' => return .goesOn (groupEnd members i, s.1.push (.sign '('), s.2)
  | .sign '[' => return .goesOn (groupEnd members i, s.1.push (.sign '['), s.2)
  | .sign ';' => do return .goesOn (i + 1, #[], s.2 ++ (← readDeclarators rounds s.1.toList))
  | t => return .goesOn (i + 1, s.1.push t, s.2)

/-- The fields that the statements of a body declare. -/
def readMembers (rounds : Nat) (members : List Token) : Checked (List String) :=
  walk rounds members (memberStep rounds members) (fun _ s => s.2) 0 (#[], [])

/-- **The members are read within the body.**  The statement under way is no longer than what has
been read of the body. -/
theorem readMembers_eq_ok {members : List Token} (hrounds : members.length < rounds) :
    readMembers rounds members = .ok (memberFields members) := by
  refine walk_eq_ok (fun i (s : Array Token × List String) => s.1.size ≤ i)
    (fun i s => s.2 ++ memberFieldsFrom s.1 (members.drop i)) ?_ ?_ (Nat.le_refl 0) hrounds
  · rintro i ⟨pending, fields⟩ hdrop -
    rw [hdrop, memberFieldsFrom, List.append_nil]
  · rintro i ⟨pending, fields⟩ t rest hdrop hsize
    have hi := lt_length_of_drop hdrop
    have hrest := (drop_eq_cons_iff.mp hdrop).2
    have hpush : ∀ u, (pending.push u).size ≤ i + 1 := fun u => by
      rw [Array.size_push]
      exact Nat.succ_le_succ hsize
    dsimp only at hsize ⊢
    rw [hdrop]
    unfold memberStep
    split
    · obtain ⟨j, hj, hij, -, hbehind⟩ := annotationEnd_eq_ok hi hrounds
      refine Or.inr ⟨j, (pending, fields), by rw [hj]; rfl, hij,
        Nat.le_trans hsize (Nat.le_of_lt hij), ?_⟩
      rw [hbehind, hrest, memberFieldsFrom]
    · have hend := (groupEnd_inRange hdrop rfl).1
      refine Or.inr ⟨_, _, rfl, hend, ?_, ?_⟩
      · dsimp only
        split
        · exact Nat.le_trans (hpush _) hend
        · exact Nat.zero_le _
      · rw [drop_groupEnd hdrop rfl, memberFieldsFrom]
    · have hend := (groupEnd_inRange hdrop rfl).1
      refine Or.inr ⟨_, _, rfl, hend, Nat.le_trans (hpush _) hend, ?_⟩
      rw [drop_groupEnd hdrop rfl, memberFieldsFrom]
    · have hend := (groupEnd_inRange hdrop rfl).1
      refine Or.inr ⟨_, _, rfl, hend, Nat.le_trans (hpush _) hend, ?_⟩
      rw [drop_groupEnd hdrop rfl, memberFieldsFrom]
    · have hstatement : pending.toList.length < rounds := by
        rw [Array.length_toList]
        omega
      refine Or.inr ⟨i + 1, (#[], fields ++ declaratorNames pending.toList),
        by rw [readDeclarators_eq_ok hstatement]; rfl, Nat.lt_succ_self i, Nat.zero_le _, ?_⟩
      rw [hrest, memberFieldsFrom, List.append_assoc]
    · refine Or.inr ⟨i + 1, _, rfl, Nat.lt_succ_self i, hpush t, ?_⟩
      rw [hrest, memberFieldsFrom] <;> assumption

/-! ## 6. Declarations -/

/-- A declaration by the position behind its name. -/
structure Opening where
  kind : Kind
  name : String
  behind : Nat

/-- The declaration that opens there. -/
def Opening.declaration (o : Opening) (ts : List Token) : Declaration :=
  ⟨o.kind, o.name, ts.drop o.behind⟩

/-- Whether a full stop stands right before a position. -/
def behindStop (ts : List Token) : Nat → Checked Bool
  | 0 => return false
  | i + 1 => return (← item ts i) == .sign '.'

/-- The declaration that the token at a position opens, if it opens one. -/
def openingAt (ts : List Token) (i : Nat) (t : Token) : Checked (Option Opening) := do
  match t.text?.bind Kind.ofKeyword? with
  | none => return none
  | some kind =>
    if ← behindStop ts i then return none
    return (wordAt? ts (i + 1)).map fun name => ⟨kind, name, i + 2⟩

/-- The first declaration. -/
def firstOpening (rounds : Nat) (ts : List Token) : Checked (Option Opening) :=
  walk rounds ts
    (fun i _ t => do
      match ← openingAt ts i t with
      | some o => return .done (some o)
      | none => return .goesOn (i + 1, ()))
    (fun _ _ => none) 0 ()

/-- The position of the first sign `c` from `i` on, if there is one. -/
def signFrom? (ts : List Token) (i : Nat) (c : Char) : Option Nat :=
  ((ts.drop i).findIdx? (· == .sign c)).map (i + ·)

/-- The components of a record and the position behind their list; of another type, none. -/
def readComponents (rounds : Nat) (ts : List Token) (o : Opening) :
    Checked (List String × Nat) := do
  match o.kind, signFrom? ts o.behind '(' with
  | .recordType, some i => do
    let (list, behind) ← group ts i
    return (← readDeclarators rounds list, behind)
  | _, _ => return ([], o.behind)

/-- The fields of the body of a type of the given kind. -/
def readBody (rounds : Nat) (kind : Kind) (body : List Token) : Checked (List String) :=
  match kind with
  | .enumType => readConstants rounds body
  | .interfaceType => return []
  | .classType | .recordType => readMembers rounds body

/-- The fields of a declared type. -/
def readFields (rounds : Nat) (ts : List Token) (o : Opening) : Checked (List String) := do
  let (components, behind) ← readComponents rounds ts o
  match signFrom? ts behind '{' with
  | none => return components
  | some i => do
    let (body, _) ← group ts i
    return components ++ (← readBody rounds o.kind body)

/-- Whether a full stop stands right before a position of the tokens. -/
def isBehindStop (ts : List Token) : Nat → Bool
  | 0 => false
  | i + 1 => ts[i]? == some (.sign '.')

theorem behindStop_eq_ok (hi : i ≤ ts.length) : behindStop ts i = .ok (isBehindStop ts i) := by
  cases i with
  | zero => rfl
  | succ i =>
    have hitem : ts[i]? = some ts[i] := List.getElem?_eq_getElem hi
    rw [behindStop, item_of_drop (drop_eq_cons_iff.mpr ⟨hitem, rfl⟩), isBehindStop, hitem]
    rfl

/-- **Each token is looked at with those next to it**, and either opens the first declaration, or
leaves the search to the tokens behind it. -/
theorem openingAt_eq_ok (h : ts.drop i = t :: rest) :
    (∃ o, openingAt ts i t = .ok (some o) ∧
      Declaration.firstFrom? (isBehindStop ts i) (t :: rest) = some (o.declaration ts)) ∨
    (openingAt ts i t = .ok none ∧
      Declaration.firstFrom? (isBehindStop ts i) (t :: rest) =
        Declaration.firstFrom? (isBehindStop ts (i + 1)) rest) := by
  obtain ⟨hitem, hrest⟩ := drop_eq_cons_iff.mp h
  have hstop : isBehindStop ts (i + 1) = (t == .sign '.') := by
    rw [isBehindStop, hitem]
    rfl
  rw [hstop]
  unfold openingAt
  cases hkind : t.text?.bind Kind.ofKeyword? with
  | none => exact Or.inr ⟨rfl, Declaration.firstFrom?_cons (Or.inr (Or.inl hkind))⟩
  | some kind =>
    simp only [behindStop_eq_ok (Nat.le_of_lt (lt_length_of_drop h))]
    cases hdotted : isBehindStop ts i with
    | true => exact Or.inr ⟨rfl, Declaration.firstFrom?_cons (Or.inl rfl)⟩
    | false =>
      cases hname : wordAt? ts (i + 1) with
      | none =>
        refine Or.inr ⟨rfl, Declaration.firstFrom?_cons (Or.inr (Or.inr ?_))⟩
        rw [← hname, wordAt?, ← List.head?_drop, hrest]
      | some name =>
        have hmore : rest = .word name :: ts.drop (i + 2) :=
          hrest.symm.trans (drop_eq_cons_iff.mpr ⟨wordAt?_eq_some_iff.mp hname, rfl⟩)
        refine Or.inl ⟨⟨kind, name, i + 2⟩, rfl, ?_⟩
        simp [hmore, Declaration.firstFrom?, hkind, Opening.declaration]

/-- **The first declaration is found within the tokens.** -/
theorem firstOpening_eq_ok (hrounds : ts.length < rounds) :
    ∃ o, firstOpening rounds ts = .ok o ∧
      o.map (Opening.declaration · ts) = Declaration.first? ts := by
  refine walk_ends
    (fun i _ => Declaration.firstFrom? (isBehindStop ts i) (ts.drop i) = Declaration.first? ts)
    (fun (o : Option Opening) => o.map (Opening.declaration · ts) = Declaration.first? ts)
    ?_ ?_ rfl hrounds
  · intro i _ hdrop hfirst
    rw [← hfirst, hdrop]
    rfl
  · intro i _ t rest hdrop hfirst
    rw [hdrop] at hfirst
    rcases openingAt_eq_ok hdrop with ⟨o, ho, hfound⟩ | ⟨hnone, hnext⟩
    · exact Or.inl ⟨some o, by rw [ho]; rfl, by rw [← hfirst, hfound]; rfl⟩
    · refine Or.inr ⟨i + 1, (), by rw [hnone]; rfl, Nat.lt_succ_self i, ?_⟩
      rw [(drop_eq_cons_iff.mp hdrop).2, ← hnext, hfirst]

/-- What follows the first sign `c` is what is left behind its place. -/
theorem afterSign?_eq_findIdx? (c : Char) (ts : List Token) :
    afterSign? c ts = (ts.findIdx? (· == .sign c)).map fun n => ts.drop (n + 1) := by
  induction ts with
  | nil => rfl
  | cons t ts ih =>
    rw [afterSign?, List.findIdx?_cons]
    by_cases ht : t = .sign c
    · simp [ht]
    · simp [ht, ih, Function.comp_def]

theorem afterSign?_drop (ts : List Token) (i : Nat) (c : Char) :
    afterSign? c (ts.drop i) = (signFrom? ts i c).map fun j => ts.drop (j + 1) := by
  rw [afterSign?_eq_findIdx?, signFrom?, Option.map_map]
  congr 1
  funext n
  rw [List.drop_drop]
  rfl

theorem drop_of_signFrom? {c : Char} {j : Nat} (h : signFrom? ts i c = some j) :
    ts.drop j = .sign c :: ts.drop (j + 1) := by
  rw [signFrom?] at h
  obtain ⟨n, hn, rfl⟩ := Option.map_eq_some_iff.mp h
  obtain ⟨hlt, hsign, -⟩ := List.findIdx?_eq_some_iff_getElem.mp hn
  have hitem : ts[i + n]? = some (.sign c) := by
    rw [← List.getElem?_drop, List.getElem?_eq_getElem hlt, eq_of_beq hsign]
  exact drop_eq_cons_iff.mpr ⟨hitem, rfl⟩

/-- What a group holds is no longer than the tokens around it. -/
theorem length_splitGroup_drop_lt (ts : List Token) (j : Nat) (hrounds : ts.length < rounds) :
    (splitGroup (ts.drop j)).1.length < rounds := by
  have hinner := length_splitGroup_le (ts.drop j)
  rw [List.length_drop] at hinner
  omega

/-- **The components are read within the tokens**, up to a position behind their list. -/
theorem readComponents_eq_ok (o : Opening) (hrounds : ts.length < rounds) :
    ∃ j, readComponents rounds ts o = .ok ((o.declaration ts).components.1, j) ∧
      (o.declaration ts).components.2 = ts.drop j := by
  rw [readComponents, Declaration.components, Opening.declaration, afterSign?_drop]
  cases hkind : o.kind with
  | recordType =>
    cases hsign : signFrom? ts o.behind '(' with
    | none => exact ⟨o.behind, rfl, rfl⟩
    | some i =>
      have hdrop := drop_of_signFrom? hsign
      refine ⟨groupEnd ts i, ?_, (drop_groupEnd hdrop rfl).symm⟩
      have hlist := readDeclarators_eq_ok (length_splitGroup_drop_lt ts (i + 1) hrounds)
      rw [Option.map_some]
      simp only [group_eq_ok hdrop rfl, bind, Except.bind, hlist]
      rfl
  | _ => exact ⟨o.behind, rfl, rfl⟩

/-- The body of a type is read within the body. -/
theorem readBody_eq_ok (kind : Kind) {body : List Token} (hrounds : body.length < rounds) :
    readBody rounds kind body = .ok (Declaration.bodyFields kind body) := by
  cases kind with
  | classType => exact readMembers_eq_ok hrounds
  | enumType => exact readConstants_eq_ok hrounds
  | recordType => exact readMembers_eq_ok hrounds
  | interfaceType => rfl

/-- **The fields are read within the tokens.** -/
theorem readFields_eq_ok (o : Opening) (hrounds : ts.length < rounds) :
    readFields rounds ts o = .ok (o.declaration ts).fields := by
  obtain ⟨j, hcomponents, hbehind⟩ := readComponents_eq_ok o hrounds
  rw [readFields, hcomponents, Declaration.fields, hbehind, afterSign?_drop]
  cases hsign : signFrom? ts j '{' with
  | none =>
    simp only [bind, Except.bind, hsign]
    rw [Option.map_none, List.append_nil]
    rfl
  | some i =>
    have hdrop := drop_of_signFrom? hsign
    have hbody := readBody_eq_ok o.kind (length_splitGroup_drop_lt ts (i + 1) hrounds)
    simp only [bind, Except.bind, hsign, group_eq_ok hdrop rfl, hbody]
    rfl

end SeriesSchema.Positions
