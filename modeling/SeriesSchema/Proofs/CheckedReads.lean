/-!
# Checked reads

A reader that keeps a position in a list, instead of what is left of the list, can go wrong in two
ways: it can ask for an item or a slice that the list does not have, and a loop of it can go on for
ever.  Here both are outcomes of their own.  A read outside the list gives `outOfRange`, and a loop
that has had all the rounds allowed to it and is not done gives `endless`.  So a reader that is
shown to give a result asks for nothing outside its list, and each of its loops ends within the
rounds allowed.

A loop is a function for one round of it.  What the loop does follows from what a round does: if
every round keeps an invariant and lowers a measure, or is the last one and establishes the
postcondition, then the loop ends with the postcondition (`loop_ends`).

1. items and slices;
2. loops;
3. walks, which are loops over the positions of a list.
-/

namespace SeriesSchema.Positions

variable {α β σ : Type}

/-- What goes wrong in a reading by positions. -/
inductive Mishap
  /-- an item or a slice lies outside the list -/
  | outOfRange
  /-- a loop is not done after all rounds allowed to it -/
  | endless
deriving DecidableEq, Repr

/-- A result, or what went wrong. -/
abbrev Checked (α : Type) :=
  Except Mishap α

/-! ## 1. Items and slices -/

/-- The item at a position. -/
def item (xs : List α) (i : Nat) : Checked α :=
  match xs[i]? with
  | some x => .ok x
  | none => .error .outOfRange

/-- The items from the position `i` on, up to the position `j`, which is not included. -/
def slice (xs : List α) (i j : Nat) : Checked (List α) :=
  if i ≤ j ∧ j ≤ xs.length then .ok ((xs.drop i).take (j - i)) else .error .outOfRange

variable {xs rest : List α} {x : α} {i j : Nat}

/-- What is left of a list begins with the item at the position. -/
theorem drop_eq_cons_iff :
    xs.drop i = x :: rest ↔ xs[i]? = some x ∧ xs.drop (i + 1) = rest := by
  constructor
  · intro h
    rw [← List.head?_drop, ← List.tail_drop, h]
    exact ⟨rfl, rfl⟩
  · rintro ⟨hx, rfl⟩
    obtain ⟨hi, rfl⟩ := List.getElem?_eq_some_iff.mp hx
    exact List.drop_eq_getElem_cons hi

/-- What is left behind the item there, and `n` items further. -/
theorem drop_behind (h : xs.drop i = x :: rest) (n : Nat) : xs.drop (i + (n + 1)) = rest.drop n := by
  rw [← List.drop_drop, h, List.drop_succ_cons]

/-- A position at which something is left lies in the list. -/
theorem lt_length_of_drop (h : xs.drop i = x :: rest) : i < xs.length := by
  have hlen := congrArg List.length h
  rw [List.length_drop, List.length_cons] at hlen
  omega

/-- An item is given if and only if the list has it. -/
theorem item_eq_ok_iff : item xs i = .ok x ↔ xs[i]? = some x := by
  rw [item]
  cases xs[i]? <;> simp

theorem item_of_drop (h : xs.drop i = x :: rest) : item xs i = .ok x :=
  item_eq_ok_iff.mpr (drop_eq_cons_iff.mp h).1

/-- A slice is given if and only if it lies in the list. -/
theorem slice_eq_ok_iff {ys : List α} :
    slice xs i j = .ok ys ↔ (i ≤ j ∧ j ≤ xs.length) ∧ (xs.drop i).take (j - i) = ys := by
  rw [slice]
  split
  · rename_i hrange
    simp [hrange]
  · rename_i hrange
    simp [hrange]

/-! ## 2. Loops -/

/-- How a round of a loop ends. -/
inductive Round (σ α : Type)
  /-- the loop goes on, in the state `s` -/
  | goesOn (s : σ)
  /-- the loop is done -/
  | done (a : α)

/-- The rounds of a loop from the state `s` on, of which `n` are allowed. -/
def loop (round : σ → Checked (Round σ α)) : Nat → σ → Checked α
  | 0, _ => .error .endless
  | n + 1, s => do
    match ← round s with
    | .goesOn s' => loop round n s'
    | .done a => return a

/-- A round from `s` is the last one, with a result that satisfies `post`, or it keeps `inv` and
lowers `left`. -/
def Advances (round : σ → Checked (Round σ α)) (inv : σ → Prop) (left : σ → Nat) (post : α → Prop)
    (s : σ) : Prop :=
  (∃ a, round s = .ok (.done a) ∧ post a) ∨
    ∃ s', round s = .ok (.goesOn s') ∧ inv s' ∧ left s' < left s

/-- **A loop that advances in every round ends**, if it is allowed more rounds than are left. -/
theorem loop_ends {round : σ → Checked (Round σ α)} (inv : σ → Prop) (left : σ → Nat)
    (post : α → Prop) (hround : ∀ s, inv s → Advances round inv left post s) {s : σ} (hinv : inv s)
    {n : Nat} (hn : left s < n) : ∃ a, loop round n s = .ok a ∧ post a := by
  induction n generalizing s with
  | zero => exact absurd hn (Nat.not_lt_zero _)
  | succ n ih =>
    rcases hround s hinv with ⟨a, hdone, ha⟩ | ⟨s', hgoes, hinv', hless⟩
    · refine ⟨a, ?_, ha⟩
      rw [loop, hdone]
      rfl
    · obtain ⟨a, hloop, ha⟩ := ih hinv' (by omega)
      refine ⟨a, ?_, ha⟩
      rw [loop, hgoes]
      exact hloop

/-! ## 3. Walks -/

/-- A loop over a list from the position `i` on.  While the position lies in the list, `step` takes
the item there; then `finish` gives the result. -/
def walk (rounds : Nat) (xs : List α) (step : Nat → σ → α → Checked (Round (Nat × σ) β))
    (finish : Nat → σ → β) (i : Nat) (s : σ) : Checked β :=
  loop (fun s => do
    if s.1 < xs.length then step s.1 s.2 (← item xs s.1) else return .done (finish s.1 s.2))
    rounds (i, s)

variable {step : Nat → σ → α → Checked (Round (Nat × σ) β)} {finish : Nat → σ → β} {s : σ}
  {rounds : Nat}

/-- **A walk whose steps go forward ends.** -/
theorem walk_ends (inv : Nat → σ → Prop) (post : β → Prop)
    (hfinish : ∀ i s, xs.drop i = [] → inv i s → post (finish i s))
    (hstep : ∀ i s x rest, xs.drop i = x :: rest → inv i s →
      (∃ b, step i s x = .ok (.done b) ∧ post b) ∨
        ∃ j s', step i s x = .ok (.goesOn (j, s')) ∧ i < j ∧ inv j s')
    (hinv : inv i s) (hrounds : xs.length < rounds) :
    ∃ b, walk rounds xs step finish i s = .ok b ∧ post b := by
  refine loop_ends (fun s => inv s.1 s.2) (fun s => xs.length - s.1) post ?_ hinv
    (Nat.lt_of_le_of_lt (Nat.sub_le _ _) hrounds)
  rintro ⟨i, s⟩ hs
  cases hdrop : xs.drop i with
  | nil =>
    have hend : ¬ i < xs.length := Nat.not_lt.mpr (List.drop_eq_nil_iff.mp hdrop)
    exact Or.inl ⟨finish i s, if_neg hend, hfinish i s hdrop hs⟩
  | cons x rest =>
    have hlt := lt_length_of_drop hdrop
    have hround : (do
        if i < xs.length then step i s (← item xs i) else return .done (finish i s)) =
        step i s x := by
      rw [if_pos hlt, item_of_drop hdrop]
      rfl
    rcases hstep i s x rest hdrop hs with ⟨b, hdone, hb⟩ | ⟨j, s', hgoes, hij, hs'⟩
    · exact Or.inl ⟨b, hround.trans hdone, hb⟩
    · exact Or.inr ⟨(j, s'), hround.trans hgoes, hs', Nat.sub_lt_sub_left hlt hij⟩

/-- A walk whose steps keep a value, up to the end, which gives it, ends with this value. -/
theorem walk_eq_ok (inv : Nat → σ → Prop) (value : Nat → σ → β)
    (hfinish : ∀ i s, xs.drop i = [] → inv i s → finish i s = value i s)
    (hstep : ∀ i s x rest, xs.drop i = x :: rest → inv i s →
      step i s x = .ok (.done (value i s)) ∨
        ∃ j s', step i s x = .ok (.goesOn (j, s')) ∧ i < j ∧ inv j s' ∧ value j s' = value i s)
    (hinv : inv i s) (hrounds : xs.length < rounds) :
    walk rounds xs step finish i s = .ok (value i s) := by
  have hends : ∃ b, walk rounds xs step finish i s = .ok b ∧ b = value i s := by
    refine walk_ends (fun j s' => inv j s' ∧ value j s' = value i s) _ ?_ ?_ ⟨hinv, rfl⟩ hrounds
    · rintro j s' hdrop ⟨hs', hvalue⟩
      rw [hfinish j s' hdrop hs', hvalue]
    · rintro j s' x rest hdrop ⟨hs', hvalue⟩
      rcases hstep j s' x rest hdrop hs' with hdone | ⟨k, s'', hgoes, hjk, hs'', hkept⟩
      · exact Or.inl ⟨_, hdone, hvalue⟩
      · exact Or.inr ⟨k, s'', hgoes, hjk, hs'', hkept.trans hvalue⟩
  obtain ⟨b, hwalk, rfl⟩ := hends
  exact hwalk

end SeriesSchema.Positions
