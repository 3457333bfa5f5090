import Junction.Exchange.Placeholder

/-!
Templates without a hash hold no placeholder and stand for themselves.
-/

namespace Junction.Placeholder

/-- A template in which no placeholder can start. -/
def IsLiteral (template : String) : Prop := '#' ∉ template.toList

theorem wordsFrom_eq_nil {text : List Char} (literal : '#' ∉ text) (skip : Nat) : wordsFrom skip text = [] := by
  induction text generalizing skip with
  | nil => cases skip <;> rfl
  | cons c rest ih =>
    obtain ⟨notHash, later⟩ : '#' ≠ c ∧ '#' ∉ rest := by simpa using literal
    cases skip with
    | succ skip => exact ih later skip
    | zero =>
      have other : ¬ (c = '#' ∧ !(rest.takeWhile isWord).isEmpty) := fun both => notHash both.1.symm
      simp only [wordsFrom, other, if_false]
      exact ih later 0

/-- What a literal template stands for depends on nothing. -/
theorem resolve_literal {template : String} (literal : IsLiteral template) (request : Request)
    (response : Response) : resolve template request response = template := by
  simp [resolve, words, wordsFrom_eq_nil literal]

end Junction.Placeholder
