/-!
# Code point ranges

The character classes of this library are properties of the Unicode character database.  Each is
written down as the ascending list of its ranges, both ends included, and asked with `Ranges.has`.
Since the list ascends, the search stops at the first range that begins above the code point: a
character below every range of a table, as most punctuation is, costs one comparison.

The early stop loses nothing (`Ranges.has_iff`): on an ascending list a code point is had exactly
if some range of the list holds it.  That a given table ascends is a closed fact, checked where the
table stands.
-/

namespace SeriesSchema.Text

/-- A set of code points, as an ascending list of ranges `(first, last)`. -/
abbrev Ranges := List (Nat × Nat)

namespace Ranges

/-- Whether a range of the list holds `n`; the search ends at the first range above `n`. -/
def has : Ranges → Nat → Bool
  | [], _ => false
  | (first, last) :: more, n => if n < first then false else n ≤ last || has more n

/-- The ranges lie at `bound` or above, and each begins above the end of the one before it. -/
def ascendsFrom (bound : Nat) : Ranges → Bool
  | [] => true
  | (first, last) :: more => bound ≤ first && first ≤ last && ascendsFrom (last + 1) more

@[simp] theorem has_nil (n : Nat) : has [] n = false := rfl

theorem has_cons (first last n : Nat) (more : Ranges) :
    has ((first, last) :: more) n = if n < first then false else n ≤ last || has more n := rfl

/-- What is had lies in a range of the list, whatever the order of the list. -/
theorem exists_of_has {t : Ranges} {n : Nat} (h : t.has n = true) :
    ∃ r ∈ t, r.1 ≤ n ∧ n ≤ r.2 := by
  induction t with
  | nil => simp at h
  | cons r more ih =>
    obtain ⟨first, last⟩ := r
    rw [has_cons] at h
    split at h
    · simp at h
    · rename_i hfirst
      rcases Bool.or_eq_true_iff.mp h with hlast | hmore
      · exact ⟨(first, last), by simp, by simpa using Nat.not_lt.mp hfirst, by simpa using hlast⟩
      · obtain ⟨r, hr, hin⟩ := ih hmore
        exact ⟨r, by simp [hr], hin⟩

/-- Every range of an ascending list begins at the bound or above it. -/
theorem le_of_mem {t : Ranges} {bound : Nat} (h : t.ascendsFrom bound = true) {r : Nat × Nat}
    (hr : r ∈ t) : bound ≤ r.1 := by
  induction t generalizing bound with
  | nil => simp at hr
  | cons s more ih =>
    obtain ⟨first, last⟩ := s
    simp only [ascendsFrom, Bool.and_eq_true, decide_eq_true_eq] at h
    rcases List.mem_cons.mp hr with rfl | hr
    · exact h.1.1
    · have := ih h.2 hr
      omega

/-- On an ascending list, a code point is had exactly if some range holds it. -/
theorem has_iff {t : Ranges} {bound : Nat} (h : t.ascendsFrom bound = true) {n : Nat} :
    t.has n = true ↔ ∃ r ∈ t, r.1 ≤ n ∧ n ≤ r.2 := by
  refine ⟨exists_of_has, ?_⟩
  induction t generalizing bound with
  | nil => simp
  | cons s more ih =>
    obtain ⟨first, last⟩ := s
    simp only [ascendsFrom, Bool.and_eq_true, decide_eq_true_eq] at h
    rintro ⟨r, hr, hle, hge⟩
    rw [has_cons]
    rcases List.mem_cons.mp hr with rfl | hr
    · simp [Nat.not_lt.mpr hle, hge]
    · have := le_of_mem h.2 hr
      have hfirst : ¬ n < first := by omega
      simp [hfirst, ih h.2 ⟨r, hr, hle, hge⟩]

end Ranges

end SeriesSchema.Text
