import Junction.Proofs.Exchange.Response

/-!
The life of a response: what operations on it, in any order, can and cannot take back. It is proved of one operation
(`after_advances`) and carried along a list of them (`advances_through`).
-/

namespace Junction.Response

/-- An operation on a response. -/
inductive Operation where
  | append (entry : Entry)
  | abortWith (entry : Entry)
  | fail (stamp : Failure.Stamp) (endpoint : String) (failure : Failure)
  | finish (status : Nat) (header : Header) (body : Option Body)
  | withHistory (history : List Entry)

/-- Only the exchange of a whole history can touch an entry that is there. -/
def Operation.keepsEntries : Operation → Bool
  | .withHistory _ => false
  | _ => true

/-- The response after an operation. -/
def after (response : Response) : Operation → Response
  | .append entry => response.append entry
  | .abortWith entry => response.abortWith entry
  | .fail stamp endpoint failure => response.fail stamp endpoint failure
  | .finish status header body => response.finish status header body
  | .withHistory history => response.withHistory history

/-- The response after operations, one after another. -/
def through (response : Response) (operations : List Operation) : Response := operations.foldl after response

/-- What is never taken back from a response to a later one. -/
structure Advances (before later : Response) : Prop where
  settled : before.written = true → later = before
  written : before.written = true → later.written = true
  aborted : before.aborted = true → later.aborted = true
  terminal : before.isTerminal = true → later.isTerminal = true
  longer : before.history.length ≤ later.history.length

variable {response : Response} {operations : List Operation}

theorem Advances.refl (response : Response) : Advances response response :=
  ⟨fun _ => rfl, id, id, id, Nat.le_refl _⟩

theorem Advances.trans {first second third : Response} (one : Advances first second) (two : Advances second third) :
    Advances first third := by
  refine ⟨?_, two.written ∘ one.written, two.aborted ∘ one.aborted, two.terminal ∘ one.terminal,
    Nat.le_trans one.longer two.longer⟩
  intro written
  rw [two.settled (one.written written), one.settled written]

/-- A written response is left as it is by every operation. -/
theorem after_of_written (written : response.written = true) (operation : Operation) :
    response.after operation = response := by
  cases operation <;> simp [after, append, abortWith, fail, finish, withHistory, written]

theorem after_advances (response : Response) (operation : Operation) : Advances response (response.after operation) := by
  by_cases written : response.written = true
  · rw [after_of_written written]
    exact Advances.refl response
  · have unwritten : response.written = false := by simpa using written
    refine ⟨fun done => absurd done written, fun done => absurd done written, ?_, ?_, ?_⟩
    · intro aborted
      cases operation with
      | append entry => simp [after, append, unwritten, aborted]
      | abortWith entry => simp [after, abortWith, unwritten]
      | fail stamp endpoint failure => simp [after, fail, unwritten]
      | finish status header body => simp [after, finish, unwritten, aborted]
      | withHistory history =>
        by_cases shorter : history.length < response.history.length
        · simp [after, withHistory, shorter, aborted]
        · simp [after, withHistory, unwritten, shorter, aborted]
    · intro terminal
      cases operation with
      | append entry => simpa [after] using terminal
      | abortWith entry => simp [after]
      | fail stamp endpoint failure => simp [after]
      | finish status header body => simp [after, finish, unwritten, isTerminal]
      | withHistory history =>
        by_cases shorter : history.length < response.history.length
        · simpa [after, withHistory, shorter] using terminal
        · simpa [after, withHistory, unwritten, shorter, isTerminal] using terminal
    · cases operation with
      | append entry => simp [after, append, unwritten]
      | abortWith entry => simp [after]
      | fail stamp endpoint failure => simp [after]
      | finish status header body => simp [after, history_finish]
      | withHistory history =>
        by_cases shorter : history.length < response.history.length
        · simp [after, withHistory, shorter]
        · simp [after, withHistory, unwritten, shorter]
          omega

/-- An operation that keeps the entries puts new ones behind them, if any. -/
theorem history_after {operation : Operation} (keeps : operation.keepsEntries = true) :
    response.history <+: (response.after operation).history := by
  cases operation with
  | append entry =>
    by_cases written : response.written = true
    · simp [after, append, written]
    · simp [after, append, written]
  | abortWith entry => simp [after]
  | fail stamp endpoint failure => simp [after]
  | finish status header body => simp [after, history_finish]
  | withHistory history => cases keeps

theorem advances_through (response : Response) (operations : List Operation) :
    Advances response (response.through operations) := by
  induction operations generalizing response with
  | nil => exact Advances.refl response
  | cons operation later ih => exact (after_advances response operation).trans (ih (response.after operation))

theorem history_through (keep : ∀ operation ∈ operations, operation.keepsEntries = true) :
    response.history <+: (response.through operations).history := by
  induction operations generalizing response with
  | nil => exact List.prefix_refl _
  | cons operation later ih =>
    have here : response.history <+: (response.after operation).history :=
      history_after (keep operation List.mem_cons_self)
    exact here.trans (ih fun other member => keep other (List.mem_cons_of_mem operation member))

/-- From any moment in the life of a response on, later operations take nothing back: a written response stays as it is,
an aborted one aborted, and the history grows, behind its old entries unless a whole new history is given. -/
theorem through_advances (response : Response) (earlier later : List Operation) :
    Advances (response.through earlier) (response.through (earlier ++ later)) ∧
      ((∀ operation ∈ later, operation.keepsEntries = true) →
        (response.through earlier).history <+: (response.through (earlier ++ later)).history) := by
  have split : response.through (earlier ++ later) = (response.through earlier).through later :=
    List.foldl_append
  rw [split]
  exact ⟨advances_through _ later, history_through⟩

end Junction.Response
