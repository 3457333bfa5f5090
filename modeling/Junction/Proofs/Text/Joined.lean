import Mathlib.Data.List.Basic

/-!
Texts that are joined by a separator. They are told apart when the separators that they hold themselves are as many on
either side.
-/

namespace Junction.Text

theorem split_eq_of_count {separator : Char} {left left' right right' : List Char}
    (same : left ++ separator :: right = left' ++ separator :: right')
    (counts : left.count separator = left'.count separator) : left = left' ∧ right = right' := by
  induction left generalizing left' with
  | nil =>
    cases left' with
    | nil => exact ⟨rfl, by simpa using same⟩
    | cons c rest =>
      obtain ⟨first, _⟩ : separator = c ∧ _ := by simpa using same
      simp [← first] at counts
  | cons c rest ih =>
    cases left' with
    | nil =>
      obtain ⟨first, _⟩ : c = separator ∧ _ := by simpa using same
      simp [first] at counts
    | cons d rest' =>
      obtain ⟨first, tails⟩ : c = d ∧ rest ++ separator :: right = rest' ++ separator :: right' := by
        simpa using same
      subst first
      have fewer : rest.count separator = rest'.count separator := by
        simp only [List.count_cons] at counts
        omega
      obtain ⟨lefts, rights⟩ := ih tails fewer
      exact ⟨congrArg (c :: ·) lefts, rights⟩

/-- Texts are told apart in what they are joined to, if they hold equally many separators one by one. -/
theorem eq_of_intercalate_eq {separator : Char} {xs ys : List (List Char)}
    (same : [separator].intercalate xs = [separator].intercalate ys)
    (counts : xs.map (List.count separator) = ys.map (List.count separator)) : xs = ys := by
  induction xs generalizing ys with
  | nil =>
    have none : ys = [] := by simpa [eq_comm] using counts
    exact none.symm
  | cons x xs ih =>
    cases ys with
    | nil => simp at counts
    | cons y ys =>
      obtain ⟨here, later⟩ : x.count separator = y.count separator ∧
          xs.map (List.count separator) = ys.map (List.count separator) := by simpa using counts
      cases xs with
      | nil =>
        have none : ys = [] := by simpa [eq_comm] using later
        subst none
        simpa using same
      | cons x' xs =>
        cases ys with
        | nil => simp at later
        | cons y' ys =>
          simp only [List.intercalate_cons_cons, List.append_assoc, List.singleton_append] at same
          obtain ⟨heads, tails⟩ := split_eq_of_count same here
          rw [heads, ih tails later]

end Junction.Text
