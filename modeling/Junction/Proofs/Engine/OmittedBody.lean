import Junction.Proofs.Engine.InStep
import Junction.Proofs.Message.Fields

/-!
Bodies that a backend leaves out. Once its entry is shaped there is nothing left of the body: the shape is made of
the status and the header alone (`shape_omitsBody`), and rules on the body that fail are passed over. Only a reply
that ends the run before it is shaped takes its body to the client.
-/

namespace Junction

/-! ## Shapes without a body -/

/-- A header after the rules on it, whatever the rules on other surfaces do. -/
def Header.ruled (request : Request) (seen : Response) (rules : List (Config.Surface × Config.Modifier))
    (header : Header) : Header :=
  match rules with
  | [] => header
  | (.header, modifier) :: rules =>
    (header.modify modifier.action modifier.key (Placeholder.resolve modifier.value request seen)).ruled request seen
      rules
  | _ :: rules => header.ruled request seen rules

namespace Entry

variable {request : Request} {seen : Response} {entry : Entry}

/-- Rules on a response change its header without regard to its body. -/
theorem applyRules_ruled (rules : List (Config.Surface × Config.Modifier)) (entry : Entry) :
    ∃ body, entry.applyRules .failOpen request seen rules =
      .ok { entry with header := entry.header.ruled request seen rules, body := body } := by
  induction rules generalizing entry with
  | nil => exact ⟨entry.body, applyRules_nil⟩
  | cons rule rules ih =>
    obtain ⟨surface, modifier⟩ := rule
    rw [applyRules_cons]
    cases surface with
    | header => exact ih _
    | query => exact ih _
    | params => exact ih _
    | body =>
      obtain ⟨body, changed⟩ := recovered_failOpen
        (Body.modify? entry.body modifier.action modifier.key (Placeholder.resolve modifier.value request seen))
        entry.body
      simp only [applyRule, changed]
      exact ih { entry with body := body }

theorem shapeBody_failOpen (shaping : Config.Shaping) (body : Body) :
    ∃ shaped, shapeBody .failOpen shaping body = .ok shaped := by
  obtain ⟨renamed, first⟩ := recovered_failOpen (body.rename shaping.mapper) body
  obtain ⟨projected, second⟩ := recovered_failOpen (renamed.project shaping.projection) renamed
  refine ⟨projected, ?_⟩
  rw [shapeBody, first]
  exact second

/-- The shape of a response whose body is left out: its status, and its header as the rules on it say. -/
theorem shape_omitsBody (raw : entry.shaped = false) (omits : entry.backend.response.omitsBody = true) :
    entry.shape .failOpen request seen = .ok
      { entry with
        header := if entry.backend.response.omitsHeader then ∅
          else entry.header.ruled request seen (entry.backend.modifiers.inScope .response)
        body := none
        shaped := true } := by
  obtain ⟨body, ruled⟩ : ∃ body, entry.applyRules .failOpen request seen (entry.backend.modifiers.inScope .response) =
      .ok { entry with
        header := entry.header.ruled request seen (entry.backend.modifiers.inScope .response), body := body } :=
    applyRules_ruled (entry.backend.modifiers.inScope .response) entry
  rw [shape, raw, ruled]
  cases body with
  | none => simp [Except.bind, omitParts, omits]
  | some body =>
    obtain ⟨shaped, done⟩ := shapeBody_failOpen entry.backend.response body
    simp [Except.bind, Except.map, omitParts, omits, done]

theorem formed_omitsBody (raw : entry.shaped = false) (omits : entry.backend.response.omitsBody = true) :
    entry.formed =
      { entry with
        header := if entry.backend.response.omitsHeader then ∅
          else entry.header.ruled {} {} (entry.backend.modifiers.inScope .response)
        body := none
        shaped := true } := by
  rw [formed, shape_omitsBody raw omits]

end Entry

/-! ## Replies that differ in their bodies -/

/-- Replies that are the same but for the body and its media type. -/
structure Reply.SameButBody (one other : Reply) : Prop where
  status : one.status = other.status
  header : ∀ field, field ≠ Header.contentType → one.header.fields.getAll field = other.header.fields.getAll field

/-- Answers that are the same but for the bodies that backends leave out, where the call at a position is to the
backend there. -/
def SameButOmittedBodies (stages : List Config.Backend) (answers answers' : Nat → Except CallError Reply) : Prop :=
  ∀ (i : Nat) (backend : Config.Backend), stages[i]? = some backend → answers i = answers' i ∨
    backend.response.omitsBody = true ∧
      ∃ reply reply', answers i = .ok reply ∧ answers' i = .ok reply' ∧ reply.SameButBody reply'

namespace Reply.SameButBody

variable {reply reply' : Reply} {backend : Config.Backend}

theorem withoutTransport (same : reply.SameButBody reply') :
    reply.header.withoutTransport = reply'.header.withoutTransport := by
  refine Header.ext_getAll ?_
  intro field
  simp only [Header.withoutTransport, Multimap.getAll_filter]
  by_cases about : field = Header.contentType
  · subst about
    have dropped : (!Header.ofTransport.contains Header.contentType) = false := by decide +kernel
    simp only [dropped, Bool.false_eq_true, if_false]
  · rw [same.header field about]

/-- What is left of replies in their shapes is the same. -/
theorem formed (same : reply.SameButBody reply') (omits : backend.response.omitsBody = true) :
    (reply.entry backend).formed = (reply'.entry backend).formed := by
  have raw : (reply.entry backend).shaped = false := rfl
  have raw' : (reply'.entry backend).shaped = false := rfl
  rw [Entry.formed_omitsBody raw omits, Entry.formed_omitsBody raw' omits]
  unfold Reply.entry
  rw [same.status, same.withoutTransport]

/-- As a run keeps them, they have one header, and one body if they are in their shapes by then. -/
theorem taken (same : reply.SameButBody reply') (omits : backend.response.omitsBody = true) :
    (reply.entry backend).taken.header = (reply'.entry backend).taken.header ∧
      (backend.response.apply = .early → (reply.entry backend).taken.body = (reply'.entry backend).taken.body) := by
  cases moment : backend.response.apply with
  | early =>
    have early : (reply.entry backend).backend.response.apply = .early := moment
    have early' : (reply'.entry backend).backend.response.apply = .early := moment
    rw [Entry.taken_early early, Entry.taken_early early', same.formed omits]
    exact ⟨rfl, fun _ => rfl⟩
  | late =>
    have late : (reply.entry backend).backend.response.apply = .late := moment
    have late' : (reply'.entry backend).backend.response.apply = .late := moment
    rw [Entry.taken_late late, Entry.taken_late late']
    refine ⟨same.withoutTransport, ?_⟩
    rintro ⟨⟩

end Reply.SameButBody

namespace SameButOmittedBodies

variable {stages : List Config.Backend} {answers answers' : Nat → Except CallError Reply} {i : Nat}
  {backend : Config.Backend} {reply reply' : Reply}

theorem answersAlike (same : SameButOmittedBodies stages answers answers') (stage : stages[i]? = some backend) :
    AnswersAlike backend backend (answers i) (answers' i) := by
  rcases same i backend stage with equal | ⟨omits, reply, reply', replied, replied', alike⟩
  · rw [equal]
    exact answersAlike_of_timeless rfl (answers' i)
  · rw [replied, replied']
    have shapes := alike.formed omits
    exact .replied (congrArg (Entry.relabel Config.Backend.timeless) shapes)

theorem taken (same : SameButOmittedBodies stages answers answers') (stage : stages[i]? = some backend)
    (replied : answers i = .ok reply) (replied' : answers' i = .ok reply') :
    reply.status = reply'.status ∧ (reply.entry backend).taken.header = (reply'.entry backend).taken.header ∧
      (¬ (backend.response.apply = .late ∧ backend.response.omitsBody = true) →
        (reply.entry backend).taken.body = (reply'.entry backend).taken.body) := by
  rcases same i backend stage with equal | ⟨omits, found, found', here, here', alike⟩
  · cases replied.symm.trans (equal.trans replied')
    exact ⟨rfl, rfl, fun _ => rfl⟩
  · cases replied.symm.trans here
    cases replied'.symm.trans here'
    obtain ⟨headers, bodies⟩ := alike.taken omits
    refine ⟨alike.status, headers, ?_⟩
    intro shaped
    cases moment : backend.response.apply with
    | early => exact bodies moment
    | late => exact absurd ⟨moment, omits⟩ shaped

end SameButOmittedBodies

namespace Run

/-- A run that a reply ends by its status, before its body, which its backend leaves out, is taken from it. -/
def EndsUnshaped (run : Run) (endpoint : Config.Endpoint) (stages : List Config.Backend)
    (answers : Nat → Except CallError Reply) (reply : Reply) : Prop :=
  ∃ i backend, run.calls.length = i + 1 ∧ stages[i]? = some backend ∧ answers i = .ok reply ∧
    endpoint.aborts reply.status = true ∧ backend.response.apply = .late ∧ backend.response.omitsBody = true

end Run

/-- Bodies that backends leave out do not reach the client. Runs whose answers differ in them make the same calls,
and have final responses of one status and header, and of one body unless they end with a reply that is still to be
shaped: then the body of that reply is the body of the final response. -/
theorem Config.Gateway.handle_sameButOmittedBodies {gateway : Config.Gateway} {context : Context}
    {endpoint : Config.Endpoint} (literal : ∀ backend ∈ gateway.stages endpoint, backend.modifiers.Literal)
    (goesOn : context.policy = .failOpen) {answers answers' : Nat → Except CallError Reply}
    (same : SameButOmittedBodies (gateway.stages endpoint) answers answers') (request : Request) :
    let run := gateway.handle (.byPosition answers) context endpoint request
    let other := gateway.handle (.byPosition answers') context endpoint request
    run.calls = other.calls ∧ run.response.status = other.response.status ∧
      run.response.header = other.response.header ∧
      ((∀ reply, ¬ run.EndsUnshaped endpoint (gateway.stages endpoint) answers reply) →
        run.response.body = other.response.body) ∧
      ∀ reply, run.EndsUnshaped endpoint (gateway.stages endpoint) answers reply →
        run.response.body = reply.header.bodyOf reply.bytes := by
  intro run other
  have entries : ∀ entry ∈ (gateway.run (.byPosition answers) context endpoint request).response.history,
      entry.backend.modifiers.Literal := literal_entries literal (.byPosition answers) request
  have entries' : ∀ entry ∈ (gateway.run (.byPosition answers') context endpoint request).response.history,
      entry.backend.modifiers.Literal := literal_entries literal (.byPosition answers') request
  have alike : ∀ (i : Nat) (backend backend' : Backend), (gateway.stages endpoint)[i]? = some backend →
      (gateway.stages endpoint)[i]? = some backend' → AnswersAlike backend backend' (answers i) (answers' i) := by
    intro i backend backend' stage stage'
    cases stage.symm.trans stage'
    exact same.answersAlike stage
  have paired := run_paired goesOn rfl rfl literal alike request
  cases paired with
  | inStep inStep unaborted =>
    have shown : run.response.shown = other.response.shown :=
      Response.shown_write_settled inStep.response rfl entries entries' goesOn _ _
    simp only [Response.shown, Prod.mk.injEq] at shown
    obtain ⟨statuses, headers, bodies⟩ := shown
    refine ⟨inStep.calls, statuses, headers, fun _ => bodies, ?_⟩
    rintro reply ⟨i, backend, count, stage, replied, aborts, late, omits⟩
    have last : i < run.calls.length := by omega
    cases (unaborted i reply (Nat.zero_le i) last replied).symm.trans aborts
  | @ended i backend backend' reply reply' stage stage' ends ends' calls =>
    cases stage.symm.trans stage'
    rw [Nat.zero_add] at ends ends'
    obtain ⟨statuses, headers, bodies⟩ := same.taken stage ends.replied ends'.replied
    have shown : run.response.shown = _ := ends.shown_write context _
    have shown' : other.response.shown = _ := ends'.shown_write context _
    simp only [Response.shown, Prod.mk.injEq] at shown shown'
    refine ⟨calls, ?_, ?_, ?_, ?_⟩
    · rw [shown.1, shown'.1, statuses]
    · rw [shown.2.1, shown'.2.1, headers]
    · intro shaped
      rw [shown.2.2, shown'.2.2]
      refine bodies ?_
      rintro ⟨late, omits⟩
      exact shaped reply ⟨i, backend, ends.count, stage, ends.replied, ends.aborts, late, omits⟩
    · rintro answer ⟨j, found, count, listed, replied, _, late, _⟩
      have last : j = i := Nat.succ.inj (count.symm.trans ends.count)
      subst last
      cases stage.symm.trans listed
      cases ends.replied.symm.trans replied
      have putOff : (reply.entry backend).backend.response.apply = .late := late
      rw [shown.2.2, Entry.taken_late putOff]
      rfl

/-- An endpoint with one backend, which leaves out bodies when the final response is written. -/
def hidingEndpoint : Config.Endpoint :=
  { path := "/users"
    backends := [{ name := "users", hosts := ["users"], response := { omitsBody := true, apply := .late } }] }

/-- The gateway of this endpoint. -/
def hidingGateway : Config.Gateway := { endpoints := [hidingEndpoint] }

/-- The same reply to every call. -/
def replying (status : Nat) (text : String) : Nat → Except CallError Reply :=
  fun _ => .ok ⟨status, .empty, text.toUTF8⟩

theorem sameButOmittedBodies_replying (status : Nat) (text text' : String) :
    SameButOmittedBodies (hidingGateway.stages hidingEndpoint) (replying status text) (replying status text') := by
  intro i backend stage
  have leavesOut : ∀ backend ∈ hidingGateway.stages hidingEndpoint, backend.response.omitsBody = true := by
    decide +kernel
  exact .inr ⟨leavesOut backend (List.mem_of_getElem? stage), _, _, rfl, rfl, ⟨rfl, fun _ _ => rfl⟩⟩

theorem handle_sameButOmittedBodies_replying :
    let run := hidingGateway.handle (.byPosition (replying 200 "a")) ⟨"r", .failOpen, ⟨"", 0, ""⟩⟩ hidingEndpoint {}
    let other := hidingGateway.handle (.byPosition (replying 200 "b")) ⟨"r", .failOpen, ⟨"", 0, ""⟩⟩ hidingEndpoint {}
    run.calls.length = 1 ∧ run.calls = other.calls ∧ run.response.body = other.response.body := by
  intro run other
  have literal : ∀ backend ∈ hidingGateway.stages hidingEndpoint, backend.modifiers.Literal := by decide +kernel
  have goesOn : (⟨"r", .failOpen, ⟨"", 0, ""⟩⟩ : Context).policy = .failOpen := rfl
  obtain ⟨calls, _, _, bodies, _⟩ := Config.Gateway.handle_sameButOmittedBodies literal goesOn
    (sameButOmittedBodies_replying 200 "a" "b") {}
  refine ⟨by decide +kernel, calls, bodies ?_⟩
  rintro reply ⟨i, backend, _, _, replied, aborts, _⟩
  cases replied
  exact absurd aborts (by decide +kernel)

/-- A body that is left out when the final response is written is not left out of a reply that ends the run. -/
theorem body_of_unshaped :
    (∀ backend ∈ hidingGateway.stages hidingEndpoint,
        backend.response.omitsBody = true ∧ backend.modifiers.Literal) ∧
      SameButOmittedBodies (hidingGateway.stages hidingEndpoint) (replying 404 "a") (replying 404 "") ∧
      let run := hidingGateway.handle (.byPosition (replying 404 "a")) ⟨"r", .failOpen, ⟨"", 0, ""⟩⟩ hidingEndpoint {}
      let other := hidingGateway.handle (.byPosition (replying 404 "")) ⟨"r", .failOpen, ⟨"", 0, ""⟩⟩ hidingEndpoint {}
      run.response.body ≠ other.response.body := by
  refine ⟨by decide +kernel, sameButOmittedBodies_replying 404 "a" "", ?_⟩
  intro run other same
  have shown : run.response.body.isSome = true := by decide +kernel
  have hidden : other.response.body.isSome = false := by decide +kernel
  rw [same, hidden] at shown
  cases shown

end Junction
