import Junction.Text.Cut

/-!
Trimming: what is trimmed is a text without white space around it, and only that is lost.
-/

namespace Junction.Text

variable {front s back : List Char}

/-- A text of white space. -/
def White (s : List Char) : Prop := ∀ c ∈ s, isWhite c = true

theorem isBlank_iff {text : String} : isBlank text = true ↔ White text.toList := List.all_eq_true

/-- White space around a text is lost. -/
theorem trimmed_append_white (before : White front) (after : White back) :
    trimmed (front ++ s ++ back) = trimmed s := by
  have start : (front ++ s ++ back).dropWhile isWhite = (s ++ back).dropWhile isWhite := by
    rw [List.append_assoc, List.dropWhile_append_of_pos before]
  have ending : (back.reverse ++ (s.dropWhile isWhite).reverse).dropWhile isWhite =
      (s.dropWhile isWhite).reverse.dropWhile isWhite := by
    apply List.dropWhile_append_of_pos
    intro c member
    exact after c (List.mem_reverse.mp member)
  rw [trimmed, trimmed, start, List.dropWhile_append]
  split
  · rename_i blank
    have none : back.dropWhile isWhite = [] := by
      rw [← List.append_nil back, List.dropWhile_append_of_pos after]
      rfl
    rw [none, List.isEmpty_iff.mp blank]
  · rw [List.reverse_append, ending]

theorem trimmed_append_tail (s : List Char) :
    trimmed s ++ ((s.dropWhile isWhite).reverse.takeWhile isWhite).reverse = s.dropWhile isWhite := by
  rw [trimmed, ← List.reverse_append, List.takeWhile_append_dropWhile, List.reverse_reverse]

/-- A text is what is trimmed with white space around it. -/
theorem exists_eq_trimmed (s : List Char) : ∃ front back, White front ∧ White back ∧ s = front ++ trimmed s ++ back := by
  refine ⟨s.takeWhile isWhite, (((s.dropWhile isWhite).reverse).takeWhile isWhite).reverse, ?_, ?_, ?_⟩
  · intro c member
    exact List.all_eq_true.mp List.all_takeWhile c member
  · intro c member
    exact List.all_eq_true.mp List.all_takeWhile c (List.mem_reverse.mp member)
  · rw [List.append_assoc, trimmed_append_tail, List.takeWhile_append_dropWhile]

/-- A text that neither starts nor ends with white space. -/
structure Tight (s : List Char) : Prop where
  first : ∀ c ∈ s.head?, isWhite c = false
  last : ∀ c ∈ s.getLast?, isWhite c = false

theorem dropWhile_eq_self {s : List Char} (first : ∀ c ∈ s.head?, isWhite c = false) : s.dropWhile isWhite = s := by
  cases s with
  | nil => rfl
  | cons c rest =>
    have notWhite : isWhite c = false := first c rfl
    simp [notWhite]

theorem trimmed_eq_self (tight : Tight s) : trimmed s = s := by
  have reversed : ∀ c ∈ s.reverse.head?, isWhite c = false := by
    intro c member
    exact tight.last c (by simpa using member)
  rw [trimmed, dropWhile_eq_self tight.first, dropWhile_eq_self reversed, List.reverse_reverse]

theorem trimmed_trimmed (s : List Char) : trimmed (trimmed s) = trimmed s := by
  obtain ⟨front, back, before, after, split⟩ := exists_eq_trimmed s
  have same := trimmed_append_white (s := trimmed s) before after
  rw [← split] at same
  exact same.symm

theorem tight_trimmed (s : List Char) : Tight (trimmed s) := by
  have headOf : ∀ t : List Char, ∀ c ∈ (t.dropWhile isWhite).head?, isWhite c = false := by
    intro t c member
    have notWhite := List.head?_dropWhile_not isWhite t
    rw [Option.mem_def.mp member] at notWhite
    exact notWhite
  refine ⟨?_, ?_⟩
  · intro c member
    refine headOf s c ?_
    rw [← trimmed_append_tail, List.head?_append, Option.mem_def.mp member]
    rfl
  · intro c member
    refine headOf (s.dropWhile isWhite).reverse c ?_
    simpa [trimmed] using member

end Junction.Text
