import Junction.Proofs.Engine.Bare
import Junction.Proofs.Engine.Step

/-!
Local rules stay local: two runs whose backends differ in local rules alone go side by side. They leave the same
request, make the same calls to backends that are the same, and end in the same response (`Run.Alike`).
-/

namespace Junction

/-- A transport that looks only at the position of a call. -/
def Transport.byPosition (answers : Nat → Except CallError Reply) : Transport :=
  fun earlier _ => answers earlier.length

/-! ## What a backend is sent -/

namespace Config.Backend

variable {context : Context}

/-- Nothing but the lack of a host withholds a call, if changes that fail do not end the run. -/
theorem snapshot_failOpen (backend : Backend) (goesOn : context.policy = .failOpen) (request : Request) (response : Response) :
    (backend.hosts.getLast? = none ∧ backend.snapshot context request response = .error (.noHost backend.name)) ∨
      ∃ host snapshot, backend.hosts.getLast? = some host ∧
        backend.snapshot context request response = .ok snapshot := by
  cases last : backend.hosts.getLast? with
  | none =>
    left
    simp [snapshot, last]
  | some host =>
    right
    obtain ⟨draft, drafted⟩ := Request.applyRules_failOpen (backend.modifiers.onRequest false) (some request)
      response (backend.forwarded request)
    simp [snapshot, last, goesOn, drafted]

/-- What a backend is sent depends on the bare request alone. -/
theorem snapshot_bare (backend : Backend) (context : Context) (request : Request) (response response' : Response)
    (literal : backend.modifiers.Literal) :
    backend.snapshot context request.bare response' = backend.snapshot context request response := by
  have rules := Config.Modifiers.literal_onRequest literal false
  have drafted : (backend.forwarded request.bare).applyRules context.policy (some request.bare) response'
        (backend.modifiers.onRequest false) =
      (((backend.forwarded request).applyRules context.policy (some request) response
        (backend.modifiers.onRequest false)).map Request.bare).mapError fun left => (left.1.bare, left.2) :=
    Request.applyRules_bare rules (backend.forwarded request)
  cases last : backend.hosts.getLast? with
  | none => simp [snapshot, last]
  | some host =>
    simp only [snapshot, last, drafted]
    cases (backend.forwarded request).applyRules context.policy (some request) response
        (backend.modifiers.onRequest false) with
    | error failure => rfl
    | ok draft => rfl

end Config.Backend

/-! ## Two runs -/

namespace Run

/-- Runs that local rules may have parted: the request but for what was sent, and the response but for the local
rules of its backends, are the same, and equally many calls were made. -/
structure Alike (one other : Run) : Prop where
  request : one.request.bare = other.request.bare
  response : one.response.bare = other.response.bare
  calls : one.calls.length = other.calls.length

variable {context : Context} {endpoint endpoint' : Config.Endpoint}
  {backend backend' : Config.Backend} {one other : Run}

theorem Alike.terminal (alike : one.Alike other) : one.response.isTerminal = other.response.isTerminal := by
  rw [← Response.isTerminal_bare, alike.response, Response.isTerminal_bare]

theorem fail_alike (alike : one.Alike other) (endpoints : endpoint.withoutLocal = endpoint'.withoutLocal)
    (failure : Failure) : (one.fail context endpoint failure).Alike (other.fail context endpoint' failure) := by
  have path : endpoint.withoutLocal.path = endpoint'.withoutLocal.path := by rw [endpoints]
  refine ⟨alike.request, ?_, alike.calls⟩
  change (one.response.fail context.stamp endpoint.withoutLocal.path failure).bare =
    (other.response.fail context.stamp endpoint'.withoutLocal.path failure).bare
  rw [Response.fail_bare, Response.fail_bare, alike.response, path]

theorem kept_bare (run : Run) (entry : Entry) (literal : entry.backend.modifiers.Literal) :
    (run.kept context entry).map Entry.bare =
      match entry.bare.backend.response.apply with
      | .early => entry.bare.shape context.policy {} {}
      | .late => .ok entry.bare := by
  simp only [Run.kept, Entry.bare, Config.Backend.response_withoutLocal]
  cases entry.backend.response.apply with
  | early => exact (Entry.shape_bare entry literal).symm
  | late => rfl

theorem receive_alike (alike : one.Alike other) (endpoints : endpoint.withoutLocal = endpoint'.withoutLocal)
    {entry entry' : Entry} (entries : entry.bare = entry'.bare) (literal : entry.backend.modifiers.Literal)
    (literal' : entry'.backend.modifiers.Literal) :
    (one.receive context endpoint entry).Alike (other.receive context endpoint' entry') := by
  have keeps : (one.kept context entry).map Entry.bare = (other.kept context entry').map Entry.bare := by
    rw [kept_bare one entry literal, kept_bare other entry' literal', entries]
  have aborts : endpoint.withoutLocal.aborts = endpoint'.withoutLocal.aborts := by rw [endpoints]
  rw [receive_eq, receive_eq]
  cases kept : one.kept context entry with
  | error failure =>
    cases kept' : other.kept context entry' with
    | error failure' =>
      have same : failure = failure' := by simpa [kept, kept', Except.map] using keeps
      subst same
      exact fail_alike alike endpoints failure
    | ok changed' => simp [kept, kept', Except.map] at keeps
  | ok changed =>
    cases kept' : other.kept context entry' with
    | error failure' => simp [kept, kept', Except.map] at keeps
    | ok changed' =>
      have same : changed.bare = changed'.bare := by simpa [kept, kept', Except.map] using keeps
      have status : changed.bare.status = changed'.bare.status := by rw [same]
      refine ⟨alike.request, ?_, alike.calls⟩
      change (if endpoint.withoutLocal.aborts changed.bare.status then one.response.abortWith changed
          else one.response.append changed).bare =
        (if endpoint'.withoutLocal.aborts changed'.bare.status then other.response.abortWith changed'
          else other.response.append changed').bare
      rw [aborts, status]
      split
      · rw [Response.abortWith_bare, Response.abortWith_bare, alike.response, same]
      · rw [Response.append_bare, Response.append_bare, alike.response, same]

theorem called_alike (alike : one.Alike other) {left right : Request} (requests : left.bare = right.bare)
    (snapshot snapshot' : Snapshot) : (one.called left snapshot).Alike (other.called right snapshot') := by
  refine ⟨requests, alike.response, ?_⟩
  simp [called, alike.calls]

/-- One backend keeps runs alike that differ in its local rules. A call is the same if its rules are. -/
theorem backend_alike (answers : Nat → Except CallError Reply) (goesOn : context.policy = .failOpen) (alike : one.Alike other)
    (endpoints : endpoint.withoutLocal = endpoint'.withoutLocal) (backends : backend.withoutLocal = backend'.withoutLocal)
    (literal : backend.modifiers.Literal) (literal' : backend'.modifiers.Literal) :
    (one.backend (.byPosition answers) context endpoint backend).Alike
        (other.backend (.byPosition answers) context endpoint' backend') ∧
      (((one.backend (.byPosition answers) context endpoint backend).calls = one.calls ∧
          (other.backend (.byPosition answers) context endpoint' backend').calls = other.calls ∧
          (one.backend (.byPosition answers) context endpoint backend).response.isTerminal = true) ∨
        ∃ call call', (one.backend (.byPosition answers) context endpoint backend).calls = one.calls ++ [call] ∧
          (other.backend (.byPosition answers) context endpoint' backend').calls = other.calls ++ [call'] ∧
          (backend = backend' → call = call')) := by
  obtain ⟨name, hosts, rules⟩ := Config.Backend.alike_of_withoutLocal backends
  obtain ⟨left, changed⟩ := Request.applyRules_failOpen (backend.modifiers.onRequest true) none one.response one.request
  obtain ⟨right, changed'⟩ :=
    Request.applyRules_failOpen (backend.modifiers.onRequest true) none other.response other.request
  have requests := Request.applyRules_alike (Config.Modifiers.literal_onRequest literal true) alike.request changed changed'
  rw [← goesOn] at changed changed'
  rw [rules] at changed'
  rcases backend.snapshot_failOpen goesOn left one.response with
    ⟨noHost, failed⟩ | ⟨host, snapshot, found, taken⟩
  · rcases backend'.snapshot_failOpen goesOn right other.response with
      ⟨noHost', failed'⟩ | ⟨host, snapshot, found, taken⟩
    · rw [backend_withholds (.sending changed failed), backend_withholds (.sending changed' failed'), name]
      have left : ({ one with request := left } : Run).Alike { other with request := right } :=
        ⟨requests, alike.response, alike.calls⟩
      exact ⟨fail_alike left endpoints _, .inl ⟨rfl, rfl, Response.isTerminal_fail ..⟩⟩
    · rw [← hosts, noHost] at found
      cases found
  · rcases backend'.snapshot_failOpen goesOn right other.response with
      ⟨noHost', failed'⟩ | ⟨host', snapshot', found', taken'⟩
    · rw [← hosts, found] at noHost'
      cases noHost'
    · rw [backend_sends ⟨changed, taken⟩, backend_sends ⟨changed', taken'⟩]
      have after := called_alike alike requests snapshot snapshot'
      have calls : backend = backend' → snapshot.call = snapshot'.call := by
        intro same
        subst same
        have first := backend.snapshot_bare context left one.response {} literal
        have second := backend.snapshot_bare context right other.response {} literal
        rw [requests, second, taken, taken'] at first
        rw [Except.ok.inj first]
      simp only [Transport.byPosition, alike.calls]
      cases answers other.calls.length with
      | error error => exact ⟨fail_alike after endpoints error.failure, .inr ⟨_, _, rfl, rfl, calls⟩⟩
      | ok reply =>
        have entries : (reply.entry backend).bare = (reply.entry backend').bare := by
          simp only [Reply.entry, Entry.bare, backends]
        exact ⟨receive_alike after endpoints entries literal literal',
          .inr ⟨_, _, receive_calls .., receive_calls .., calls⟩⟩

/-- Runs over stages that differ in local rules stay alike, and make the same calls to stages that are the same. -/
theorem backends_alike (answers : Nat → Except CallError Reply) (goesOn : context.policy = .failOpen) (alike : one.Alike other)
    (endpoints : endpoint.withoutLocal = endpoint'.withoutLocal) {stages stages' : List Config.Backend}
    (backends : stages.map Config.Backend.withoutLocal = stages'.map Config.Backend.withoutLocal)
    (literal : ∀ backend ∈ stages, backend.modifiers.Literal) (literal' : ∀ backend ∈ stages', backend.modifiers.Literal) :
    (Run.backends (.byPosition answers) context endpoint stages one).Alike
        (Run.backends (.byPosition answers) context endpoint' stages' other) ∧
      ∃ made made', (Run.backends (.byPosition answers) context endpoint stages one).calls = one.calls ++ made ∧
        (Run.backends (.byPosition answers) context endpoint' stages' other).calls = other.calls ++ made' ∧
        ∀ i : Nat, stages[i]? = stages'[i]? → made[i]? = made'[i]? := by
  induction stages generalizing stages' one other with
  | nil =>
    have none : stages' = [] := by simpa [eq_comm] using backends
    subst none
    exact ⟨alike, [], [], by simp [Run.backends], by simp [Run.backends], fun i same => rfl⟩
  | cons backend stages ih =>
    cases stages' with
    | nil => simp at backends
    | cons backend' stages' =>
      obtain ⟨here, later⟩ := List.cons.inj backends
      obtain ⟨after, calls⟩ := backend_alike answers goesOn alike endpoints here
        (literal backend List.mem_cons_self) (literal' backend' List.mem_cons_self)
      have ends := after.terminal
      rcases calls with ⟨noCall, noCall', stopped⟩ | ⟨call, call', called, called', sameCall⟩
      · rw [stopped] at ends
        refine ⟨?_, [], [], ?_, ?_, fun i same => rfl⟩
        · simpa [Run.backends, stopped, ← ends] using after
        · simpa [Run.backends, stopped] using noCall
        · simpa [Run.backends, ← ends] using noCall'
      · by_cases stopped : (one.backend (.byPosition answers) context endpoint backend).response.isTerminal = true
        · rw [stopped] at ends
          refine ⟨?_, [call], [call'], ?_, ?_, ?_⟩
          · simpa [Run.backends, stopped, ← ends] using after
          · simpa [Run.backends, stopped] using called
          · simpa [Run.backends, ← ends] using called'
          · intro i same
            cases i with
            | zero => simpa using sameCall (by simpa using same)
            | succ i => rfl
        · have goes : (one.backend (.byPosition answers) context endpoint backend).response.isTerminal = false := by
            simpa using stopped
          rw [goes] at ends
          obtain ⟨rest, made, made', more, more', same⟩ := ih after later
            (fun next member => literal next (List.mem_cons_of_mem _ member))
            (fun next member => literal' next (List.mem_cons_of_mem _ member))
          refine ⟨?_, call :: made, call' :: made', ?_, ?_, ?_⟩
          · simpa [Run.backends, goes, ← ends] using rest
          · simp [Run.backends, goes, more, called]
          · simp [Run.backends, ← ends, more', called']
          · intro i sameStage
            cases i with
            | zero => simpa using sameCall (by simpa using sameStage)
            | succ i => simpa using same i (by simpa using sameStage)

end Run

/-! ## Whole gateways -/

namespace Config.Gateway

variable {gateway one other : Gateway} {place : Place} {endpoint endpoint' : Endpoint} {index : Nat}

theorem known_eq_places (gateway : Gateway) (names : List String) :
    ((names.filter gateway.middlewares.contains).map Place.middleware).map gateway.at? =
      (gateway.known names).map some := by
  induction names with
  | nil => rfl
  | cons name names ih =>
    have contains : gateway.middlewares.contains name = (gateway.middleware? name).isSome := rfl
    cases found : gateway.middleware? name with
    | none =>
      rw [found] at contains
      simpa [known, contains, found] using ih
    | some backend =>
      rw [found] at contains
      simpa [known, contains, found, at?] using ih

/-- The stages of an endpoint are the backends at its places. -/
theorem stages_eq_places (listed : gateway.endpoints[index]? = some endpoint) :
    (gateway.places index endpoint).map gateway.at? = (gateway.stages endpoint).map some := by
  have own : ((List.range endpoint.backends.length).map (Place.own index)).map gateway.at? =
      endpoint.backends.map some := by
    apply List.ext_getElem?
    intro position
    by_cases inside : position < endpoint.backends.length
    · simp [inside, at?, listed]
    · simp [inside]
  simp only [places, stages, List.map_append, known_eq_places, own]

theorem literal_stages (literal : gateway.Literal) (listed : gateway.endpoints[index]? = some endpoint) :
    ∀ backend ∈ gateway.stages endpoint, backend.modifiers.Literal := by
  intro backend member
  have found : some backend ∈ (gateway.places index endpoint).map gateway.at? := by
    rw [stages_eq_places listed]
    exact List.mem_map_of_mem member
  obtain ⟨place, _, here⟩ := List.mem_map.mp found
  exact literal place backend here

/-- Stages of gateways that differ at a place are alike but for local rules, and at other places the same. -/
theorem stages_of_differAt (differ : DifferAt place one other) (first : one.endpoints[index]? = some endpoint)
    (second : other.endpoints[index]? = some endpoint') :
    (one.stages endpoint).map Backend.withoutLocal = (other.stages endpoint').map Backend.withoutLocal ∧
      ∀ i : Nat, (one.places index endpoint)[i]? ≠ some place →
        (one.stages endpoint)[i]? = (other.stages endpoint')[i]? := by
  have places : one.places index endpoint = other.places index endpoint' :=
    places_of_differAt differ (endpoint_of_differAt differ first second)
  have left := stages_eq_places first
  have right := stages_eq_places second
  rw [← places] at right
  constructor
  · have bare : ((one.stages endpoint).map some).map (Option.map Backend.withoutLocal) =
        ((other.stages endpoint').map some).map (Option.map Backend.withoutLocal) := by
      rw [← left, ← right, List.map_map, List.map_map]
      refine List.map_inj_left.mpr ?_
      intro found member
      exact (at?_of_differAt differ found).1
    simp only [List.map_map, Function.comp_def, Option.map_some] at bare
    have unwrapped : ((one.stages endpoint).map Backend.withoutLocal).map some =
        ((other.stages endpoint').map Backend.withoutLocal).map some := by
      simpa [List.map_map, Function.comp_def] using bare
    exact (List.map_inj_right fun _ _ => Option.some.inj).mp unwrapped
  · intro i elsewhere
    have here : ((one.stages endpoint)[i]?).map some = ((one.places index endpoint)[i]?).map one.at? := by
      rw [← List.getElem?_map, ← List.getElem?_map, left]
    have there : ((other.stages endpoint')[i]?).map some = ((one.places index endpoint)[i]?).map other.at? := by
      rw [← List.getElem?_map, ← List.getElem?_map, right]
    have same : ((one.places index endpoint)[i]?).map one.at? = ((one.places index endpoint)[i]?).map other.at? := by
      cases listed : (one.places index endpoint)[i]? with
      | none => rfl
      | some found =>
        have different : found ≠ place := fun same => elsewhere (listed.trans (congrArg some same))
        exact congrArg some ((at?_of_differAt differ found).2 different)
    exact (Option.map_inj_right fun _ _ => Option.some.inj).mp (here.trans (same.trans there.symm))

end Config.Gateway

/-- Runs that are told apart by nothing but the calls at some positions, and what comes of them in histories. -/
structure Run.SameBut (apart : Nat → Prop) (one other : Run) : Prop where
  count : one.calls.length = other.calls.length
  calls : ∀ i : Nat, ¬ apart i → one.calls[i]? = other.calls[i]?
  requestHeader : one.request.header = other.request.header
  query : one.request.query = other.request.query
  params : one.request.params = other.request.params
  requestBody : one.request.body = other.request.body
  status : one.response.status = other.response.status
  responseHeader : one.response.header = other.response.header
  responseBody : one.response.body = other.response.body

theorem Run.sameBut_of_alike {one other : Run} (alike : one.Alike other) {apart : Nat → Prop}
    (calls : ∀ i : Nat, ¬ apart i → one.calls[i]? = other.calls[i]?) : one.SameBut apart other := by
  have request := alike.request
  have response := alike.response
  simp only [Request.bare, Request.mk.injEq, Response.bare, Response.mk.injEq] at request response
  obtain ⟨method, url, path, params, header, query, body, _⟩ := request
  obtain ⟨status, responseHeader, responseBody, _⟩ := response
  exact ⟨alike.calls, calls, header, query, params, body, status, responseHeader, responseBody⟩

namespace Config.Gateway

variable {one other : Gateway} {endpoint endpoint' : Endpoint} {context : Context}

theorem literal_entries (literal : ∀ backend ∈ one.stages endpoint, backend.modifiers.Literal)
    (transport : Transport) (request : Request) :
    ∀ entry ∈ (one.run transport context endpoint request).response.history, entry.backend.modifiers.Literal := by
  intro entry member
  rcases Run.entries_of_backends entry member with none | listed
  · cases none
  · exact literal entry.backend listed

/-- The final response depends on the bare response of the run alone. -/
theorem handle_response_bare (literal : ∀ backend ∈ one.stages endpoint, backend.modifiers.Literal)
    (transport : Transport) (request : Request) :
    (one.handle transport context endpoint request).response.bare =
      (one.run transport context endpoint request).response.bare.write context endpoint.withoutLocal {} := by
  have entries : ∀ entry ∈ (one.run transport context endpoint request).response.history,
      entry.backend.modifiers.Literal := literal_entries literal transport request
  exact (Response.write_bare context endpoint (one.run transport context endpoint request).request {}
    (one.run transport context endpoint request).response entries).symm

theorem handle_alike (endpoints : endpoint.withoutLocal = endpoint'.withoutLocal)
    (stages : (one.stages endpoint).map Backend.withoutLocal = (other.stages endpoint').map Backend.withoutLocal)
    (literal : ∀ backend ∈ one.stages endpoint, backend.modifiers.Literal)
    (literal' : ∀ backend ∈ other.stages endpoint', backend.modifiers.Literal)
    (answers : Nat → Except CallError Reply) (goesOn : context.policy = .failOpen) (request : Request) :
    (one.handle (.byPosition answers) context endpoint request).Alike
        (other.handle (.byPosition answers) context endpoint' request) ∧
      ∀ i : Nat, (one.stages endpoint)[i]? = (other.stages endpoint')[i]? →
        (one.handle (.byPosition answers) context endpoint request).calls[i]? =
          (other.handle (.byPosition answers) context endpoint' request).calls[i]? := by
  have start : ({ request := request } : Run).Alike { request := request } := ⟨rfl, rfl, rfl⟩
  obtain ⟨after, made, made', calls, calls', same⟩ :=
    Run.backends_alike answers goesOn start endpoints stages literal literal'
  refine ⟨⟨after.request, ?_, after.calls⟩, ?_⟩
  · have responses : (one.run (.byPosition answers) context endpoint request).response.bare =
        (other.run (.byPosition answers) context endpoint' request).response.bare := after.response
    rw [handle_response_bare literal, handle_response_bare literal', responses, endpoints]
  · intro i sameStage
    have left : (one.handle (.byPosition answers) context endpoint request).calls = [] ++ made := calls
    have right : (other.handle (.byPosition answers) context endpoint' request).calls = [] ++ made' := calls'
    rw [left, right]
    exact same i sameStage

/-- Rules of one backend that do not propagate reach no other backend and not the client: whatever they are, the
runs differ in nothing but what this backend is sent. -/
theorem handle_sameBut_local {place : Place} {index : Nat} (differ : DifferAt place one other)
    (first : one.endpoints[index]? = some endpoint) (second : other.endpoints[index]? = some endpoint')
    (literal : one.Literal) (literal' : other.Literal) (answers : Nat → Except CallError Reply)
    (goesOn : context.policy = .failOpen) (request : Request) :
    (one.handle (.byPosition answers) context endpoint request).SameBut
      (fun i => (one.places index endpoint)[i]? = some place)
      (other.handle (.byPosition answers) context endpoint' request) := by
  obtain ⟨stages, sameStages⟩ := stages_of_differAt differ first second
  obtain ⟨alike, calls⟩ := handle_alike (endpoint_of_differAt differ first second) stages
    (literal_stages literal first) (literal_stages literal' second) answers goesOn request
  refine Run.sameBut_of_alike alike ?_
  intro i elsewhere
  exact calls i (sameStages i elsewhere)

/-- A backend with header rules. -/
def ruledBackend (rules : List Modifier) : Backend :=
  { name := "users", hosts := ["users"], modifiers := { header := rules } }

/-- An endpoint whose first backend has header rules. -/
def ruledFirst (rules : List Modifier) : Endpoint :=
  { path := "/users", backends := [ruledBackend rules, { name := "orders", hosts := ["orders"] }] }

/-- A rule that does not propagate. -/
def tenantRule : Modifier := ⟨.request, .set, "X-Tenant", "acme", false⟩

theorem handle_sameBut_tenantRule :
    DifferAt (.own 0 0) { endpoints := [ruledFirst []] } { endpoints := [ruledFirst [tenantRule]] } ∧
      Run.SameBut
        (fun i => (({ endpoints := [ruledFirst []] } : Gateway).places 0 (ruledFirst []))[i]? = some (.own 0 0))
        (({ endpoints := [ruledFirst []] } : Gateway).handle (.byPosition fun _ => .ok ⟨200, ∅, .empty⟩)
          ⟨"", .failOpen, ⟨"", 0, ""⟩⟩ (ruledFirst []) {})
        (({ endpoints := [ruledFirst [tenantRule]] } : Gateway).handle (.byPosition fun _ => .ok ⟨200, ∅, .empty⟩)
          ⟨"", .failOpen, ⟨"", 0, ""⟩⟩ (ruledFirst [tenantRule]) {}) := by
  have differ : DifferAt (.own 0 0) { endpoints := [ruledFirst []] } { endpoints := [ruledFirst [tenantRule]] } :=
    ⟨ruledBackend [], ruledBackend [tenantRule], rfl, rfl, rfl⟩
  exact ⟨differ, handle_sameBut_local differ rfl rfl (by decide +kernel) (by decide +kernel) _ rfl {}⟩

end Config.Gateway
end Junction
