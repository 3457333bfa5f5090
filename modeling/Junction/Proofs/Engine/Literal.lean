import Junction.Proofs.Config.LocalRules
import Junction.Proofs.Engine.Step
import Junction.Engine.Final

/-!
What rules without placeholders do. They see neither the request nor the response, and under a policy that goes
on they do not fail, so every entry has one shape (`Entry.formed`), whenever it is given to it: the final
response is made of the entries in that shape (`write_literal`).
-/

namespace Junction

/-! ## Rules that see nothing -/

namespace Request

variable {policy : Change.Policy} {seen seen' : Option Request} {response response' : Response}
  {rules : List (Config.Surface × Config.Modifier)}

theorem applyRules_blind (literal : ∀ rule ∈ rules, Placeholder.IsLiteral rule.2.value) (request : Request) :
    request.applyRules policy seen response rules = request.applyRules policy seen' response' rules := by
  induction rules generalizing request with
  | nil => rfl
  | cons rule rules ih =>
    have here := literal rule List.mem_cons_self
    simp only [applyRules, Placeholder.resolve_literal here]
    cases request.applyRule policy rule rule.2.value with
    | error failure => rfl
    | ok changed => exact ih (fun other member => literal other (List.mem_cons_of_mem _ member)) changed

end Request

namespace Entry

variable {policy : Change.Policy} {request request' : Request} {seen seen' : Response}
  {rules : List (Config.Surface × Config.Modifier)} {entry : Entry}

theorem applyRules_blind (literal : ∀ rule ∈ rules, Placeholder.IsLiteral rule.2.value) (entry : Entry) :
    entry.applyRules policy request seen rules = entry.applyRules policy request' seen' rules := by
  induction rules generalizing entry with
  | nil => rw [applyRules_nil, applyRules_nil]
  | cons rule rules ih =>
    have here := literal rule List.mem_cons_self
    rw [applyRules_cons, applyRules_cons, Placeholder.resolve_literal here, Placeholder.resolve_literal here]
    cases entry.applyRule policy rule rule.2.value with
    | error failure => simp only [Except.bind]
    | ok changed =>
      simp only [Except.bind]
      exact ih (fun other member => literal other (List.mem_cons_of_mem _ member)) changed

theorem shape_blind (literal : entry.backend.modifiers.Literal) :
    entry.shape policy request seen = entry.shape policy request' seen' := by
  have rules : entry.applyRules policy request seen (entry.backend.modifiers.inScope .response) =
      entry.applyRules policy request' seen' (entry.backend.modifiers.inScope .response) :=
    applyRules_blind (Config.Modifiers.literal_inScope literal .response) entry
  simp only [shape, rules]

/-! ## The shape of an entry -/

/-- An entry in the shape that its backend gives it, if changes that fail are passed over and no placeholder has
a value. -/
def formed (entry : Entry) : Entry :=
  match entry.shape .failOpen {} {} with
  | .ok shaped => shaped
  | .error _ => entry

theorem shape_failOpen (entry : Entry) (request : Request) (seen : Response) :
    ∃ shaped, entry.shape .failOpen request seen = .ok shaped := by
  cases result : entry.shape .failOpen request seen with
  | ok shaped => exact ⟨shaped, rfl⟩
  | error failure =>
    obtain ⟨closed, _⟩ := shape_error result
    cases closed

theorem shape_literal (literal : entry.backend.modifiers.Literal) (request : Request) (seen : Response) :
    entry.shape .failOpen request seen = .ok entry.formed := by
  obtain ⟨shaped, done⟩ := shape_failOpen entry {} {}
  have formed : entry.formed = shaped := by rw [Entry.formed, done]
  rw [shape_blind literal, done, formed]

theorem formed_sameReply (entry : Entry) : entry.formed.SameReply entry := by
  obtain ⟨shaped, done⟩ := shape_failOpen entry {} {}
  rw [formed, done]
  exact shape_sameReply done

theorem formed_of_shaped (shaped : entry.shaped = true) : entry.formed = entry := by
  simp [formed, shape, shaped]

theorem shaped_of_shape {changed : Entry} (done : entry.shape policy request seen = .ok changed) :
    changed.shaped = true := by
  unfold shape at done
  split at done
  · rename_i shaped
    cases done
    exact shaped
  · obtain ⟨ruled, _, rest⟩ := Outcome.bind_eq_ok.mp done
    split at rest
    · obtain ⟨body, _, omitted⟩ := Outcome.map_eq_ok.mp rest
      rw [← omitted]
      rfl
    · cases rest
      rfl

theorem shaped_formed (entry : Entry) : entry.formed.shaped = true := by
  obtain ⟨shaped, done⟩ := shape_failOpen entry {} {}
  rw [formed, done]
  exact shaped_of_shape done

@[simp] theorem formed_formed (entry : Entry) : entry.formed.formed = entry.formed :=
  formed_of_shaped (shaped_formed entry)

end Entry

/-! ## The final response -/

namespace Response

variable {response : Response} {context : Context} {endpoint : Config.Endpoint} {history : List Entry}

theorem write_terminal (terminal : response.isTerminal = true) (context : Context) (endpoint : Config.Endpoint)
    (request : Request) : response.write context endpoint request = response := by
  rw [write, if_pos terminal]

theorem mapM_shape_literal (literal : ∀ entry ∈ history, entry.backend.modifiers.Literal) (request : Request)
    (seen : Response) : history.mapM (Entry.shape .failOpen request seen) = .ok (history.map Entry.formed) := by
  induction history with
  | nil => rfl
  | cons entry rest ih =>
    have here := Entry.shape_literal (literal entry List.mem_cons_self) request seen
    have later := ih fun other member => literal other (List.mem_cons_of_mem _ member)
    simp only [List.mapM_cons, here, later]
    rfl

theorem shapeEntries_literal (literal : ∀ entry ∈ response.history, entry.backend.modifiers.Literal)
    (going : response.isTerminal = false) (request : Request) :
    response.shapeEntries .failOpen request = .ok (response.mapEntries Entry.formed) := by
  by_cases shaped : response.history.all (·.shaped) = true
  · have same : response.history.map Entry.formed = response.history := by
      have fixed : ∀ entry ∈ response.history, entry.formed = id entry := by
        intro entry member
        exact Entry.formed_of_shaped (List.all_eq_true.mp shaped entry member)
      rw [List.map_congr_left fixed, List.map_id]
    simp only [shapeEntries, shaped, if_true, mapEntries, same]
  · simp [shapeEntries, shaped, mapM_shape_literal literal, Except.map, withHistory, mapEntries,
      unwritten_of_going going]

/-- The final response is made of the entries in their shapes. -/
theorem write_literal (literal : ∀ entry ∈ response.history, entry.backend.modifiers.Literal)
    (going : response.isTerminal = false) (goesOn : context.policy = .failOpen) (request : Request) :
    response.write context endpoint request =
      match assemble .failOpen endpoint (response.history.map Entry.formed) with
      | .error failure => (response.mapEntries Entry.formed).fail context.stamp endpoint.path failure
      | .ok (status, header, body) => (response.mapEntries Entry.formed).finish status header body := by
  have entries : (response.mapEntries Entry.formed).history = response.history.map Entry.formed := rfl
  cases assembled : assemble .failOpen endpoint (response.history.map Entry.formed) with
  | error failure =>
    simp only [write, going, Bool.false_eq_true, if_false, goesOn, shapeEntries_literal literal going, entries,
      assembled]
  | ok made =>
    simp only [write, going, Bool.false_eq_true, if_false, goesOn, shapeEntries_literal literal going, entries,
      assembled]

/-- What is written is what the assembled entries show. -/
theorem shown_write (literal : ∀ entry ∈ response.history, entry.backend.modifiers.Literal)
    (going : response.isTerminal = false) (goesOn : context.policy = .failOpen) (endpoint : Config.Endpoint)
    (request : Request) :
    (response.write context endpoint request).shown =
      match assemble .failOpen endpoint (response.history.map Entry.formed) with
      | .error failure => (failure.kind.status, ∅, some (failure.body context.stamp endpoint.path))
      | .ok made => made := by
  have going' : (response.mapEntries Entry.formed).isTerminal = false := going
  rw [write_literal literal going goesOn]
  cases assemble .failOpen endpoint (response.history.map Entry.formed) with
  | error failure => exact shown_fail going' ..
  | ok made => exact shown_finish going' ..

theorem history_write (literal : ∀ entry ∈ response.history, entry.backend.modifiers.Literal)
    (going : response.isTerminal = false) (goesOn : context.policy = .failOpen) (request : Request) :
    (response.write context endpoint request).history = response.history.map Entry.formed := by
  rw [write_literal literal going goesOn]
  cases assemble .failOpen endpoint (response.history.map Entry.formed) with
  | error failure => exact history_fail ..
  | ok made => exact history_finish ..

/-- Of several entries only those that are not left out count, and how many there are. -/
theorem assemble_retained {policy : Change.Policy} {history' : List Entry} (length : history.length = history'.length)
    (kept : retained history = retained history') : assemble policy endpoint history = assemble policy endpoint history' := by
  simp only [assemble, finalHeader, length, kept]

end Response
end Junction
