import Junction.Exchange.Response

/-!
What the operations on a response do to its history and to its end.
-/

namespace Junction.Response

variable {response : Response}

theorem unwritten_of_going (going : response.isTerminal = false) : response.written = false :=
  (Bool.or_eq_false_iff.mp going).2

@[simp] theorem isTerminal_append (entry : Entry) : (response.append entry).isTerminal = response.isTerminal := by
  by_cases written : response.written = true
  · simp [append, written]
  · simp [append, written, isTerminal]

@[simp] theorem isTerminal_abortWith (entry : Entry) : (response.abortWith entry).isTerminal = true := by
  by_cases written : response.written = true
  · simp [abortWith, written, isTerminal]
  · simp [abortWith, written, isTerminal]

@[simp] theorem isTerminal_fail (stamp : Failure.Stamp) (endpoint : String) (failure : Failure) :
    (response.fail stamp endpoint failure).isTerminal = true := by
  by_cases written : response.written = true
  · simp [fail, written, isTerminal]
  · simp [fail, written, isTerminal]

@[simp] theorem history_abortWith (entry : Entry) : (response.abortWith entry).history = response.history := by
  by_cases written : response.written = true
  · simp [abortWith, written]
  · simp [abortWith, written]

@[simp] theorem history_fail (stamp : Failure.Stamp) (endpoint : String) (failure : Failure) :
    (response.fail stamp endpoint failure).history = response.history := by
  by_cases written : response.written = true
  · simp [fail, written]
  · simp [fail, written]

theorem written_append (entry : Entry) : (response.append entry).written = response.written := by
  by_cases written : response.written = true
  · simp [append, written]
  · simp [append, written]

theorem written_abortWith (entry : Entry) : (response.abortWith entry).written = response.written := by
  by_cases written : response.written = true
  · simp [abortWith, written]
  · simp [abortWith, written]

theorem written_fail (stamp : Failure.Stamp) (endpoint : String) (failure : Failure) :
    (response.fail stamp endpoint failure).written = response.written := by
  by_cases written : response.written = true
  · simp [fail, written]
  · simp [fail, written]

theorem history_append (going : response.isTerminal = false) (entry : Entry) :
    (response.append entry).history = response.history ++ [entry] := by
  simp [append, unwritten_of_going going]

theorem mem_history_append {entry added : Entry} (member : entry ∈ (response.append added).history) :
    entry ∈ response.history ∨ entry = added := by
  by_cases written : response.written = true
  · left
    simpa [append, written] using member
  · simpa [append, written] using member

theorem failure_append (entry : Entry) : (response.append entry).failure? = response.failure? := by
  by_cases written : response.written = true
  · simp [append, written]
  · simp [append, written]

theorem abortWith_going (going : response.isTerminal = false) (entry : Entry) :
    (response.abortWith entry).aborted = true ∧ (response.abortWith entry).status = entry.status ∧
      (response.abortWith entry).failure? = response.failure? := by
  simp [abortWith, unwritten_of_going going]

theorem fail_going (going : response.isTerminal = false) (stamp : Failure.Stamp) (endpoint : String)
    (failure : Failure) :
    (response.fail stamp endpoint failure).aborted = true ∧
      (response.fail stamp endpoint failure).status = failure.kind.status ∧
      (response.fail stamp endpoint failure).failure? = some failure := by
  simp [fail, unwritten_of_going going]

theorem failure_fail (going : response.isTerminal = false) (stamp : Failure.Stamp) (path : String) (failure : Failure) :
    (response.fail stamp path failure).failure? = some failure := (fail_going going stamp path failure).2.2

theorem failure_abortWith (entry : Entry) : (response.abortWith entry).failure? = response.failure? := by
  by_cases written : response.written = true
  · simp [abortWith, written]
  · simp [abortWith, written]

theorem failure_finish (status : Nat) (header : Header) (body : Option Body) :
    (response.finish status header body).failure? = response.failure? := by
  by_cases written : response.written = true
  · simp [finish, written]
  · simp [finish, written]

/-! ## Entries changed at their places -/

/-- The response with every entry changed. -/
def mapEntries (change : Entry → Entry) (response : Response) : Response :=
  { response with history := response.history.map change }

variable {change : Entry → Entry}

theorem append_mapEntries (entry : Entry) :
    (response.append entry).mapEntries change = (response.mapEntries change).append (change entry) := by
  by_cases written : response.written = true
  · simp [append, mapEntries, written]
  · simp [append, mapEntries, written]

theorem abortWith_mapEntries (entry : Entry) :
    (response.abortWith entry).mapEntries change = (response.mapEntries change).abortWith entry := by
  by_cases written : response.written = true
  · simp [abortWith, mapEntries, written]
  · simp [abortWith, mapEntries, written]

theorem fail_mapEntries (stamp : Failure.Stamp) (endpoint : String) (failure : Failure) :
    (response.fail stamp endpoint failure).mapEntries change =
      (response.mapEntries change).fail stamp endpoint failure := by
  by_cases written : response.written = true
  · simp [fail, mapEntries, written]
  · simp [fail, mapEntries, written]

theorem finish_mapEntries (status : Nat) (header : Header) (body : Option Body) :
    (response.finish status header body).mapEntries change =
      (response.mapEntries change).finish status header body := by
  by_cases written : response.written = true
  · simp [finish, mapEntries, written]
  · simp [finish, mapEntries, written]

theorem withHistory_mapEntries (history : List Entry) :
    (response.withHistory history).mapEntries change = (response.mapEntries change).withHistory (history.map change) := by
  by_cases kept : (response.written || history.length < response.history.length) = true
  · simp [withHistory, mapEntries, kept]
  · simp [withHistory, mapEntries, kept]

/-! ## What a client gets -/

/-- Status, header and body of a response. -/
def shown (response : Response) : Nat × Header × Option Body := (response.status, response.header, response.body)

theorem shown_abortWith (going : response.isTerminal = false) (entry : Entry) :
    (response.abortWith entry).shown = (entry.status, Header.empty.aggregate entry.header, entry.body) := by
  simp [abortWith, shown, unwritten_of_going going]

theorem shown_fail (going : response.isTerminal = false) (stamp : Failure.Stamp) (endpoint : String)
    (failure : Failure) :
    (response.fail stamp endpoint failure).shown = (failure.kind.status, ∅, some (failure.body stamp endpoint)) := by
  simp [fail, shown, unwritten_of_going going]

theorem shown_finish (going : response.isTerminal = false) (status : Nat) (header : Header) (body : Option Body) :
    (response.finish status header body).shown = (status, header, body) := by
  simp [finish, shown, unwritten_of_going going]

theorem history_finish (status : Nat) (header : Header) (body : Option Body) :
    (response.finish status header body).history = response.history := by
  by_cases written : response.written = true
  · simp [finish, written]
  · simp [finish, written]

end Junction.Response
