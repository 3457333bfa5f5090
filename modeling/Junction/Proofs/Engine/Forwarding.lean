import Junction.Proofs.Config.LocalRules
import Junction.Proofs.Engine.CallOrder
import Junction.Proofs.Message.Fields

/-!
What of a request reaches a backend. Rules without placeholders see nothing but the values under their own key,
so requests that agree on what a backend forwards (`Request.AgreeOn`) still do after its propagating rules, and
are the same once they are filtered: the backend is sent one and the same call for both.
-/

namespace Junction

/-- Requests that agree in method, parameters and body, on some fields of the header and some names of the query. -/
structure Request.AgreeOn (fields names : String → Prop) (one other : Request) : Prop where
  method : one.method = other.method
  params : one.params = other.params
  body : one.body = other.body
  header : ∀ field, fields field → one.header.fields.getAll field = other.header.fields.getAll field
  query : ∀ name, names name → one.query.values.getAll name = other.query.values.getAll name

/-! ## Rules -/

namespace Request

variable {rules : List (Config.Surface × Config.Modifier)} {fields names : String → Prop} {one other : Request}

theorem applyRule_agree (agree : one.AgreeOn fields names other) (policy : Change.Policy)
    (rule : Config.Surface × Config.Modifier) (value : String) :
    (∃ left right, one.applyRule policy rule value = .ok left ∧ other.applyRule policy rule value = .ok right ∧
        left.AgreeOn fields names right) ∨
      ∃ failure, one.applyRule policy rule value = .error failure ∧
        other.applyRule policy rule value = .error failure := by
  obtain ⟨method, params, body, header, query⟩ := agree
  obtain ⟨surface, modifier⟩ := rule
  cases surface with
  | header =>
    left
    refine ⟨_, _, rfl, rfl, method, params, body, ?_, query⟩
    intro field listed
    exact Header.modify_agree (header field listed) modifier.action modifier.key value
  | query =>
    left
    refine ⟨_, _, rfl, rfl, method, params, body, header, ?_⟩
    intro name listed
    exact Query.modify_agree (query name listed) modifier.action modifier.key value
  | params =>
    left
    refine ⟨_, _, rfl, rfl, method, ?_, body, header, query⟩
    exact congrArg (·.modify modifier.action modifier.key value) params
  | body =>
    simp only [applyRule, body]
    cases recovered policy (Body.modify? other.body modifier.action modifier.key value) other.body with
    | error failure => exact .inr ⟨failure, rfl, rfl⟩
    | ok changed => exact .inl ⟨_, _, rfl, rfl, method, params, rfl, header, query⟩

/-- Rules without placeholders keep requests in agreement, or fail on both for one reason. -/
theorem applyRules_agree (literal : ∀ rule ∈ rules, Placeholder.IsLiteral rule.2.value)
    (agree : one.AgreeOn fields names other) (policy : Change.Policy) (seen seen' : Option Request)
    (response response' : Response) :
    (∃ left right, one.applyRules policy seen response rules = .ok left ∧
        other.applyRules policy seen' response' rules = .ok right ∧ left.AgreeOn fields names right) ∨
      ∃ left right failure, one.applyRules policy seen response rules = .error (left, failure) ∧
        other.applyRules policy seen' response' rules = .error (right, failure) := by
  induction rules generalizing one other with
  | nil => exact .inl ⟨one, other, rfl, rfl, agree⟩
  | cons rule rules ih =>
    have here := literal rule List.mem_cons_self
    simp only [applyRules, Placeholder.resolve_literal here]
    rcases applyRule_agree agree policy rule rule.2.value with
      ⟨left, right, changed, changed', alike⟩ | ⟨failure, failed, failed'⟩
    · rw [changed, changed']
      exact ih (fun other member => literal other (List.mem_cons_of_mem _ member)) alike
    · rw [failed, failed']
      exact .inr ⟨one, other, failure, rfl, rfl⟩

end Request

/-! ## What is forwarded -/

namespace Config.Backend

variable {backend : Backend} {context : Context} {one other : Request} {response response' : Response}
  {snapshot : Snapshot}

/-- A header field that goes on to a backend: it is listed, or all are, and transport does not decide it. -/
def ForwardsField (backend : Backend) (field : String) : Prop :=
  ("*" ∈ backend.forwardHeaders ∨ field ∈ backend.forwardHeaders.map headerName) ∧ field ∉ Header.ofTransport

/-- A name of the query that goes on to a backend. -/
def ForwardsName (backend : Backend) (name : String) : Prop :=
  "*" ∈ backend.forwardQueries ∨ name ∈ backend.forwardQueries

instance (backend : Backend) (field : String) : Decidable (backend.ForwardsField field) :=
  inferInstanceAs (Decidable (_ ∧ _))

instance (backend : Backend) (name : String) : Decidable (backend.ForwardsName name) :=
  inferInstanceAs (Decidable (_ ∨ _))

theorem getAll_forwarded_header (backend : Backend) (request : Request) (field : String) :
    (backend.forwarded request).header.fields.getAll field =
      if backend.ForwardsField field then request.header.fields.getAll field else [] := by
  simp only [forwarded, Header.withoutTransport, Header.filter, Multimap.getAll_filter]
  by_cases transport : field ∈ Header.ofTransport
  · simp [ForwardsField, transport]
  · by_cases all : "*" ∈ backend.forwardHeaders
    · simp [ForwardsField, transport, all]
    · simp [ForwardsField, transport, all, Multimap.getAll_filter]

theorem getAll_forwarded_query (backend : Backend) (request : Request) (name : String) :
    (backend.forwarded request).query.values.getAll name =
      if backend.ForwardsName name then request.query.values.getAll name else [] := by
  simp only [forwarded, Query.filter]
  by_cases all : "*" ∈ backend.forwardQueries
  · simp [ForwardsName, all]
  · simp [ForwardsName, all, Multimap.getAll_filter]

/-- Of requests that agree on what is forwarded, the same is forwarded. -/
theorem forwarded_agree (agree : one.AgreeOn backend.ForwardsField backend.ForwardsName other) :
    (backend.forwarded one).AgreeOn (fun _ => True) (fun _ => True) (backend.forwarded other) := by
  refine ⟨?_, agree.params, agree.body, ?_, ?_⟩
  · simp [forwarded, Request.of, agree.method]
  · intro field _
    rw [getAll_forwarded_header, getAll_forwarded_header]
    by_cases forwards : backend.ForwardsField field
    · rw [if_pos forwards, if_pos forwards, agree.header field forwards]
    · rw [if_neg forwards, if_neg forwards]
  · intro name _
    rw [getAll_forwarded_query, getAll_forwarded_query]
    by_cases forwards : backend.ForwardsName name
    · rw [if_pos forwards, if_pos forwards, agree.query name forwards]
    · rw [if_neg forwards, if_neg forwards]

theorem snapshot_agree (literal : backend.modifiers.Literal)
    (agree : one.AgreeOn backend.ForwardsField backend.ForwardsName other) :
    backend.snapshot context one response = backend.snapshot context other response' := by
  cases last : backend.hosts.getLast? with
  | none => simp [snapshot, last]
  | some host =>
    rcases Request.applyRules_agree (Modifiers.literal_onRequest literal false) (forwarded_agree agree)
        context.policy (some one) (some other) response response' with
      ⟨left, right, drafted, drafted', same⟩ | ⟨left, right, failure, failed, failed'⟩
    · have header : left.header = right.header := Header.ext_getAll fun field => same.header field trivial
      have query : left.query = right.query := Query.ext_getAll fun name => same.query name trivial
      simp only [snapshot, last, drafted, drafted', header, query, same.method, same.params, same.body]
    · simp only [snapshot, last, failed, failed']

theorem requestId_of_snapshot {request : Request} (taken : backend.snapshot context request response = .ok snapshot) :
    snapshot.call.header.getAll Header.requestId = [context.requestId] := by
  unfold Config.Backend.snapshot at taken
  split at taken
  · cases taken
  · split at taken
    · cases taken
    · rename_i draft drafted
      cases taken
      change (draft.header.fields.set (headerName Header.requestId) context.requestId).getAll
        (headerName Header.requestId) = _
      rw [Multimap.getAll_set, if_pos rfl]

end Config.Backend

/-! ## What is sent -/

namespace Run

variable {transport transport' : Transport} {context : Context} {endpoint : Config.Endpoint}
  {backend : Config.Backend} {stages : List Config.Backend} {run : Run} {response : Response} {calls : List Call}
  {one other : Request}

/-- What a run sends to a backend: one call, or nothing and the failure that ends it. -/
inductive Yields (context : Context) (endpoint : Config.Endpoint) (before after : Run) : Except Failure Call → Prop where
  | sent {call : Call} (made : after.calls = before.calls ++ [call]) : Yields context endpoint before after (.ok call)
  | withheld {failure : Failure} (none : after.calls = before.calls)
      (ended : after.response = before.response.fail context.stamp endpoint.path failure) :
      Yields context endpoint before after (.error failure)

theorem yields_of_withholds {request : Request} {failure : Failure}
    (withholds : Withholds context backend run request failure) :
    Yields context endpoint run (run.backend transport context endpoint backend) (.error failure) := by
  rw [backend_withholds withholds]
  exact .withheld rfl rfl

/-- A backend is sent the same for requests that agree on what it forwards. -/
theorem yields_agree (literal : backend.modifiers.Literal)
    (agree : one.AgreeOn backend.ForwardsField backend.ForwardsName other) :
    ∃ sent, Yields context endpoint ⟨one, response, calls⟩
        (Run.backend ⟨one, response, calls⟩ transport context endpoint backend) sent ∧
      Yields context endpoint ⟨other, response, calls⟩
        (Run.backend ⟨other, response, calls⟩ transport' context endpoint backend) sent := by
  rcases Request.applyRules_agree (Config.Modifiers.literal_onRequest literal true) agree context.policy none none
      response response with
    ⟨left, right, changed, changed', alike⟩ | ⟨left, right, failure, failed, failed'⟩
  · have same : backend.snapshot context left response = backend.snapshot context right response :=
      Config.Backend.snapshot_agree literal alike
    cases taken : backend.snapshot context right response with
    | error failure =>
      rw [taken] at same
      exact ⟨.error failure, yields_of_withholds (.sending changed same), yields_of_withholds (.sending changed' taken)⟩
    | ok snapshot =>
      rw [taken] at same
      exact ⟨.ok snapshot.call, .sent (calls_of_sends ⟨changed, same⟩), .sent (calls_of_sends ⟨changed', taken⟩)⟩
  · exact ⟨.error failure, yields_of_withholds (.propagating failed), yields_of_withholds (.propagating failed')⟩

/-- The call to a backend carries the id of the run, whatever the client sent and the rules put there. -/
theorem calls_of_backend (called : Call) (member : called ∈ (run.backend transport context endpoint backend).calls) :
    called ∈ run.calls ∨ called.header.getAll Header.requestId = [context.requestId] := by
  have step : Step transport context endpoint backend run (run.backend transport context endpoint backend) := step_backend
  rcases step_calls step with ⟨same, _⟩ | ⟨request, snapshot, sends, added, _⟩
  · exact .inl (same ▸ member)
  · rw [added] at member
    rcases List.mem_append.mp member with earlier | last
    · exact .inl earlier
    · rw [List.mem_singleton.mp last]
      exact .inr (Config.Backend.requestId_of_snapshot sends.taken)

theorem calls_of_backends (called : Call) (member : called ∈ (backends transport context endpoint stages run).calls) :
    called ∈ run.calls ∨ called.header.getAll Header.requestId = [context.requestId] := by
  induction stages generalizing run with
  | nil => exact .inl member
  | cons next stages ih =>
    simp only [backends] at member
    split at member
    · exact calls_of_backend called member
    · rcases ih member with earlier | later
      · exact calls_of_backend called earlier
      · exact .inr later

end Run

open Run

/-- Nothing but what a backend forwards reaches it: for requests that agree on that it is sent the same call, or
withheld it for the same failure. And every call, also in a whole run, carries the id of its run as the only one. -/
theorem sends_onlyForwarded (context : Context) :
    (∀ (transport transport' : Transport) (endpoint : Config.Endpoint) (backend : Config.Backend) (response : Response)
        (calls : List Call) (one other : Request), backend.modifiers.Literal →
        one.AgreeOn backend.ForwardsField backend.ForwardsName other →
        ∃ sent, Yields context endpoint ⟨one, response, calls⟩
            (Run.backend ⟨one, response, calls⟩ transport context endpoint backend) sent ∧
          Yields context endpoint ⟨other, response, calls⟩
            (Run.backend ⟨other, response, calls⟩ transport' context endpoint backend) sent) ∧
      (∀ (transport : Transport) (endpoint : Config.Endpoint) (backend : Config.Backend) (run : Run),
        ∀ call ∈ (run.backend transport context endpoint backend).calls,
          call ∈ run.calls ∨ call.header.getAll Header.requestId = [context.requestId]) ∧
      ∀ (gateway : Config.Gateway) (transport : Transport) (endpoint : Config.Endpoint) (request : Request),
        ∀ call ∈ (gateway.run transport context endpoint request).calls,
          call.header.getAll Header.requestId = [context.requestId] := by
  refine ⟨?_, ?_, ?_⟩
  · intro transport transport' endpoint backend response calls one other literal agree
    exact yields_agree literal agree
  · intro transport endpoint backend run called member
    exact calls_of_backend called member
  · intro gateway transport endpoint request called member
    rcases calls_of_backends called member with none | carried
    · cases none
    · exact carried

/-- A backend with a rule that propagates on a field that is not forwarded to it. -/
def anonymousBackend : Config.Backend :=
  { name := "users"
    hosts := ["users"]
    forwardHeaders := ["accept"]
    modifiers := { header := [⟨.request, .add, "Authorization", "gateway", true⟩] } }

/-- A request with credentials. -/
def bearing (token : String) : Request := { header := Header.empty.set "Authorization" token }

theorem sends_onlyForwarded_anonymous :
    anonymousBackend.modifiers.Literal ∧
      (bearing "a").AgreeOn anonymousBackend.ForwardsField anonymousBackend.ForwardsName (bearing "b") ∧
      ∃ sent, Yields ⟨"r", .failClosed, ⟨"", 0, ""⟩⟩ {} ⟨bearing "a", {}, []⟩
          (Run.backend ⟨bearing "a", {}, []⟩ (fun _ _ => .error .timeout) ⟨"r", .failClosed, ⟨"", 0, ""⟩⟩ {} anonymousBackend)
          sent ∧
        Yields ⟨"r", .failClosed, ⟨"", 0, ""⟩⟩ {} ⟨bearing "b", {}, []⟩
          (Run.backend ⟨bearing "b", {}, []⟩ (fun _ _ => .error .timeout) ⟨"r", .failClosed, ⟨"", 0, ""⟩⟩ {} anonymousBackend)
          sent := by
  have literal : anonymousBackend.modifiers.Literal := by decide +kernel
  have agree : (bearing "a").AgreeOn anonymousBackend.ForwardsField anonymousBackend.ForwardsName (bearing "b") := by
    refine ⟨rfl, rfl, rfl, ?_, fun _ _ => rfl⟩
    rintro field ⟨listed, _⟩
    have spelled : anonymousBackend.forwardHeaders.map headerName = ["Accept"] := by decide +kernel
    have accept : field = "Accept" := by
      rcases listed with all | named
      · simp [anonymousBackend] at all
      · simpa [spelled] using named
    subst accept
    decide +kernel
  exact ⟨literal, agree, (sends_onlyForwarded _).1 _ _ _ _ _ _ _ _ literal agree⟩

end Junction
