/-!
# Splitting

A text is split at the places where a sign stands.  The parts may be empty, and joining them with
the sign gives the text back (`join_split`).  The other way round, parts that do not hold the sign
are what the text that joins them is split into (`split_joinWith`).
-/

namespace SeriesSchema.Text

/-- The parts of a text between the places where `sep` stands; there is always one more of them
than of these places. -/
def split (sep : Char) : List Char → List (List Char)
  | [] => [[]]
  | c :: cs =>
    if c = sep then [] :: split sep cs
    else match split sep cs with
      | part :: parts => (c :: part) :: parts
      | [] => [[c]]

theorem split_ne_nil (sep : Char) (text : List Char) : split sep text ≠ [] := by
  cases text with
  | nil => simp [split]
  | cons c cs =>
    rw [split]
    split
    · simp
    · split <;> simp

/-- The parts with a sign between them. -/
def joinWith (sep : Char) : List (List Char) → List Char
  | [] => []
  | [part] => part
  | part :: parts => part ++ sep :: joinWith sep parts

theorem join_split (sep : Char) (text : List Char) : joinWith sep (split sep text) = text := by
  induction text with
  | nil => rfl
  | cons c cs ih =>
    rw [split]
    split
    · rename_i h
      subst h
      cases hs : split c cs with
      | nil => exact absurd hs (split_ne_nil c cs)
      | cons part parts =>
        rw [hs] at ih
        simp [joinWith, ih]
    · cases hs : split sep cs with
      | nil => exact absurd hs (split_ne_nil sep cs)
      | cons part parts =>
        rw [hs] at ih
        cases parts with
        | nil => simp [joinWith, ← ih]
        | cons next more => simp [joinWith, ← ih]

/-- A sign in the text separates the parts before it from the parts behind it. -/
theorem split_append_cons (sep : Char) (s t : List Char) :
    split sep (s ++ sep :: t) = split sep s ++ split sep t := by
  induction s with
  | nil => simp [split]
  | cons c cs ih =>
    rw [List.cons_append, split, split, ih]
    split
    · rfl
    · cases hs : split sep cs with
      | nil => exact absurd hs (split_ne_nil sep cs)
      | cons part parts => rfl

/-- A text without the sign is its only part. -/
theorem split_of_not_mem {sep : Char} {text : List Char} (h : sep ∉ text) :
    split sep text = [text] := by
  induction text with
  | nil => rfl
  | cons c cs ih =>
    have hc : c ≠ sep := fun heq => h (by rw [heq]; exact List.mem_cons_self)
    rw [split, if_neg hc, ih fun hmem => h (List.mem_cons_of_mem _ hmem)]

/-- Parts that do not hold the sign are found again in the text that joins them. -/
theorem split_joinWith {sep : Char} {parts : List (List Char)} (hne : parts ≠ [])
    (h : ∀ part ∈ parts, sep ∉ part) : split sep (joinWith sep parts) = parts := by
  induction parts with
  | nil => exact absurd rfl hne
  | cons part more ih =>
    have hpart : split sep part = [part] := split_of_not_mem (h part List.mem_cons_self)
    cases more with
    | nil => exact hpart
    | cons next rest =>
      have hrest := ih (List.cons_ne_nil next rest) fun other hmem =>
        h other (List.mem_cons_of_mem _ hmem)
      rw [joinWith, split_append_cons, hpart, hrest]
      · rfl
      · simp

/-- What stands in a text is the sign, or stands in one of the parts. -/
theorem mem_of_split {sep c : Char} {text : List Char} (h : c ∈ text) :
    c = sep ∨ ∃ part ∈ split sep text, c ∈ part := by
  induction text with
  | nil => cases h
  | cons d cs ih =>
    rw [split]
    split
    · rename_i heq
      rcases List.mem_cons.mp h with rfl | h
      · exact Or.inl heq
      · rcases ih h with hsep | ⟨part, hmem, hc⟩
        · exact Or.inl hsep
        · exact Or.inr ⟨part, List.mem_cons_of_mem _ hmem, hc⟩
    · cases hs : split sep cs with
      | nil => exact absurd hs (split_ne_nil sep cs)
      | cons part parts =>
        rw [hs] at ih
        rcases List.mem_cons.mp h with rfl | h
        · exact Or.inr ⟨c :: part, List.mem_cons_self, List.mem_cons_self⟩
        · rcases ih h with hsep | ⟨other, hmem, hc⟩
          · exact Or.inl hsep
          · rcases List.mem_cons.mp hmem with rfl | hmem
            · exact Or.inr ⟨d :: other, List.mem_cons_self, List.mem_cons_of_mem _ hc⟩
            · exact Or.inr ⟨other, List.mem_cons_of_mem _ hmem, hc⟩

end SeriesSchema.Text
