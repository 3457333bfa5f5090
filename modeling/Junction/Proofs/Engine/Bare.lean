import Junction.Proofs.Engine.Relabel

/-!
What local rules cannot reach. `bare` takes from a request its history, and from the entries of a response the
local rules of their backends. Rules, shaping and the final response do to what is bare what they do to the
whole, as long as no rule has a placeholder that could show the difference.
-/

namespace Junction

/-! ## Bare requests, entries and responses -/

/-- A request without what was sent for it. -/
def Request.bare (request : Request) : Request := { request with history := [] }

/-- An entry of its backend without local rules. -/
def Entry.bare (entry : Entry) : Entry := { entry with backend := entry.backend.withoutLocal }

/-- A response with bare entries. -/
def Response.bare (response : Response) : Response := { response with history := response.history.map Entry.bare }

/-! ## Rules -/

namespace Request

variable {policy : Change.Policy} {seen seen' : Option Request} {response response' : Response} {value : String}
  {rule : Config.Surface × Config.Modifier} {rules : List (Config.Surface × Config.Modifier)} {request : Request}

theorem applyRule_bare (request : Request) :
    request.bare.applyRule policy rule value = (request.applyRule policy rule value).map bare := by
  obtain ⟨surface, modifier⟩ := rule
  cases surface with
  | header => rfl
  | query => rfl
  | params => rfl
  | body =>
    simp only [applyRule, bare]
    cases recovered policy (Body.modify? request.body modifier.action modifier.key value) request.body with
    | error failure => rfl
    | ok body => rfl

/-- Rules without placeholders do to a bare request what they do to the whole one, whatever they can see. -/
theorem applyRules_bare (literal : ∀ rule ∈ rules, Placeholder.IsLiteral rule.2.value) (request : Request) :
    request.bare.applyRules policy seen' response' rules =
      ((request.applyRules policy seen response rules).map bare).mapError fun left => (left.1.bare, left.2) := by
  induction rules generalizing request with
  | nil => rfl
  | cons rule rules ih =>
    have here := literal rule List.mem_cons_self
    simp only [applyRules, Placeholder.resolve_literal here, applyRule_bare]
    cases request.applyRule policy rule rule.2.value with
    | error failure => rfl
    | ok changed => exact ih (fun other member => literal other (List.mem_cons_of_mem _ member)) changed

/-- Requests that are the same when bare still are after the same rules. -/
theorem applyRules_alike (literal : ∀ rule ∈ rules, Placeholder.IsLiteral rule.2.value) {one other left right : Request}
    (alike : one.bare = other.bare) (done : one.applyRules policy seen response rules = .ok left)
    (done' : other.applyRules policy seen' response' rules = .ok right) : left.bare = right.bare := by
  have first : one.bare.applyRules policy none {} rules =
      ((one.applyRules policy seen response rules).map bare).mapError fun left => (left.1.bare, left.2) :=
    applyRules_bare literal one
  have second : other.bare.applyRules policy none {} rules =
      ((other.applyRules policy seen' response' rules).map bare).mapError fun left => (left.1.bare, left.2) :=
    applyRules_bare literal other
  rw [alike, second, done, done'] at first
  exact (Except.ok.inj first).symm

/-- Under a policy that goes on, rules on a request do not fail. -/
theorem applyRules_failOpen (rules : List (Config.Surface × Config.Modifier)) (seen : Option Request)
    (response : Response) (request : Request) :
    ∃ changed, request.applyRules .failOpen seen response rules = .ok changed := by
  induction rules generalizing request with
  | nil => exact ⟨request, rfl⟩
  | cons rule rules ih =>
    have applied : ∀ value, ∃ next, request.applyRule .failOpen rule value = .ok next := by
      intro value
      obtain ⟨surface, modifier⟩ := rule
      cases surface with
      | header => exact ⟨_, rfl⟩
      | query => exact ⟨_, rfl⟩
      | params => exact ⟨_, rfl⟩
      | body =>
        obtain ⟨body, changed⟩ :=
          recovered_failOpen (Body.modify? request.body modifier.action modifier.key value) request.body
        simp only [applyRule, changed]
        exact ⟨_, rfl⟩
    obtain ⟨next, same⟩ := applied (Placeholder.resolve rule.2.value (seen.getD request) response)
    simp only [applyRules, same]
    exact ih next

end Request

namespace Entry

variable {policy : Change.Policy} {request request' : Request} {seen seen' : Response}

/-- Local rules are not among those that shape a response. -/
theorem shapesLike_withoutLocal (backend : Config.Backend) : backend.withoutLocal.ShapesLike backend :=
  ⟨Config.Modifiers.inScope_response_withoutLocal, rfl⟩

/-- Shaping does to a bare entry what it does to the whole one, whatever placeholders could see. -/
theorem shape_bare (entry : Entry) (literal : entry.backend.modifiers.Literal) :
    entry.bare.shape policy request' seen' = (entry.shape policy request seen).map bare := by
  have blind : entry.shape policy request seen = entry.shape policy request' seen' := shape_blind literal
  rw [blind]
  exact shape_relabel (shapesLike_withoutLocal entry.backend)

end Entry

/-! ## Responses -/

namespace Response

variable {response : Response}

theorem isTerminal_bare : response.bare.isTerminal = response.isTerminal := rfl

theorem append_bare (entry : Entry) : (response.append entry).bare = response.bare.append entry.bare :=
  append_mapEntries entry

theorem abortWith_bare (entry : Entry) : (response.abortWith entry).bare = response.bare.abortWith entry.bare :=
  abortWith_mapEntries entry

theorem fail_bare (stamp : Failure.Stamp) (endpoint : String) (failure : Failure) :
    (response.fail stamp endpoint failure).bare = response.bare.fail stamp endpoint failure :=
  fail_mapEntries stamp endpoint failure

theorem finish_bare (status : Nat) (header : Header) (body : Option Body) :
    (response.finish status header body).bare = response.bare.finish status header body :=
  finish_mapEntries status header body

theorem withHistory_bare (history : List Entry) :
    (response.withHistory history).bare = response.bare.withHistory (history.map Entry.bare) :=
  withHistory_mapEntries history

variable {policy : Change.Policy} {request request' : Request} {seen seen' : Response} {endpoint : Config.Endpoint}
  {history : List Entry}

theorem mapM_shape_bare (literal : ∀ entry ∈ history, entry.backend.modifiers.Literal) :
    (history.map Entry.bare).mapM (Entry.shape policy request' seen') =
      (history.mapM (Entry.shape policy request seen)).map (List.map Entry.bare) := by
  induction history with
  | nil => rfl
  | cons entry rest ih =>
    have later := ih fun other member => literal other (List.mem_cons_of_mem _ member)
    have here : entry.bare.shape policy request' seen' = (entry.shape policy request seen).map Entry.bare :=
      Entry.shape_bare entry (literal entry List.mem_cons_self)
    simp only [List.map_cons, List.mapM_cons, here, later]
    cases entry.shape policy request seen with
    | error failure => rfl
    | ok shaped =>
      cases rest.mapM (Entry.shape policy request seen) with
      | error failure => rfl
      | ok more => rfl

theorem shapeEntries_bare (literal : ∀ entry ∈ response.history, entry.backend.modifiers.Literal) :
    response.bare.shapeEntries policy request' = (response.shapeEntries policy request).map bare := by
  have whole : (response.history.map Entry.bare).all (·.shaped) = response.history.all (·.shaped) := by
    rw [List.all_map]
    rfl
  by_cases shaped : response.history.all (·.shaped) = true
  · simp [shapeEntries, bare, whole, shaped, Except.map]
  · have entries : (response.history.map Entry.bare).mapM (Entry.shape policy request' response.bare) =
        (response.history.mapM (Entry.shape policy request response)).map (List.map Entry.bare) :=
      mapM_shape_bare literal
    have bareShaped : ¬ response.bare.history.all (·.shaped) = true := by
      rw [bare, whole]
      exact shaped
    simp only [shapeEntries, shaped, bareShaped]
    rw [show response.bare.history = response.history.map Entry.bare from rfl, entries]
    cases response.history.mapM (Entry.shape policy request response) with
    | error failure => rfl
    | ok changed => exact congrArg Except.ok (withHistory_bare changed).symm

theorem assemble_bare (history : List Entry) :
    assemble policy endpoint.withoutLocal (history.map Entry.bare) = assemble policy endpoint history :=
  assemble_relabel Entry.shapesLike_withoutLocal history

/-- The final response of a bare response is that of the whole one, whatever placeholders could see. -/
theorem write_bare (context : Context) (endpoint : Config.Endpoint) (request request' : Request) (response : Response)
    (literal : ∀ entry ∈ response.history, entry.backend.modifiers.Literal) :
    response.bare.write context endpoint.withoutLocal request' = (response.write context endpoint request).bare := by
  by_cases terminal : response.isTerminal = true
  · simp [write, isTerminal_bare, terminal]
  · have shaped : response.bare.shapeEntries context.policy request' =
        (response.shapeEntries context.policy request).map bare := shapeEntries_bare literal
    simp only [write, isTerminal_bare, terminal, shaped, Bool.false_eq_true, if_false]
    cases response.shapeEntries context.policy request with
    | error failure => exact (fail_bare ..).symm
    | ok changed =>
      have assembled : assemble context.policy endpoint.withoutLocal changed.bare.history =
          assemble context.policy endpoint changed.history := assemble_bare changed.history
      simp only [Except.map, assembled]
      cases assemble context.policy endpoint changed.history with
      | error failure => exact (fail_bare ..).symm
      | ok made => exact (finish_bare ..).symm

end Response
end Junction
