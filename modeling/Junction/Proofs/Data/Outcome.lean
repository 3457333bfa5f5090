import Mathlib.Data.List.Forall2

/-!
When a chain of steps that may fail succeeds, and when it fails.
-/

namespace Junction.Outcome

variable {α β ε : Type}

theorem map_eq_ok {f : α → β} {result : Except ε α} {value : β} :
    result.map f = .ok value ↔ ∃ inner, result = .ok inner ∧ f inner = value := by
  cases result <;> simp [Except.map]

theorem map_eq_error {f : α → β} {result : Except ε α} {error : ε} :
    result.map f = .error error ↔ result = .error error := by
  cases result <;> simp [Except.map]

theorem bind_eq_ok {f : α → Except ε β} {result : Except ε α} {value : β} :
    result.bind f = .ok value ↔ ∃ inner, result = .ok inner ∧ f inner = .ok value := by
  cases result <;> simp [Except.bind]

theorem bind_eq_error {f : α → Except ε β} {result : Except ε α} {error : ε} :
    result.bind f = .error error ↔ result = .error error ∨ ∃ inner, result = .ok inner ∧ f inner = .error error := by
  cases result <;> simp [Except.bind]

theorem mapM_eq_ok {f : α → Except ε β} {items : List α} {values : List β} (done : items.mapM f = .ok values) :
    List.Forall₂ (fun item value => f item = .ok value) items values := by
  induction items generalizing values with
  | nil => cases done; exact .nil
  | cons item rest ih =>
    rw [List.mapM_cons] at done
    obtain ⟨value, first, later⟩ := bind_eq_ok.mp done
    obtain ⟨more, others, whole⟩ := bind_eq_ok.mp later
    cases whole
    exact .cons first (ih others)

theorem mapM_of_forall₂ {f : α → Except ε β} {items : List α} {values : List β}
    (each : List.Forall₂ (fun item value => f item = .ok value) items values) : items.mapM f = .ok values := by
  induction each with
  | nil => rfl
  | cons first _ others =>
    rw [List.mapM_cons, first, others]
    rfl

theorem mapM_eq_error {f : α → Except ε β} {items : List α} {error : ε} (failed : items.mapM f = .error error) :
    ∃ item ∈ items, f item = .error error := by
  induction items with
  | nil => cases failed
  | cons item rest ih =>
    rw [List.mapM_cons] at failed
    rcases bind_eq_error.mp failed with first | ⟨value, _, later⟩
    · exact ⟨item, List.mem_cons_self, first⟩
    · rcases bind_eq_error.mp later with others | ⟨more, _, whole⟩
      · obtain ⟨found, member, fails⟩ := ih others
        exact ⟨found, List.mem_cons_of_mem item member, fails⟩
      · cases whole

end Junction.Outcome
