import Junction.Proofs.Http.Earned

/-!
A broken cache is invisible. A cache from which nothing comes but misses, failures and values that are no stored responses
may lose, keep or change what it likes: every request is answered as by a gateway that caches nothing, and the same calls
are made for it (`exchanges_of_broken`).
-/

namespace Junction

/-! ## Caching switched off -/

namespace Config

/-- The endpoint without caching, as it is configured and in the settings that hold for it. -/
def Endpoint.uncached (endpoint : Endpoint) : Endpoint :=
  { endpoint with
    caching := { endpoint.caching with enabled := some false }
    effective := { endpoint.effective with caching := { endpoint.effective.caching with enabled := false } } }

/-- The gateway without caching at any endpoint. -/
def Gateway.uncached (gateway : Gateway) : Gateway :=
  { gateway with endpoints := gateway.endpoints.map Endpoint.uncached }

theorem Gateway.resolve_uncached (gateway : Gateway) : gateway.uncached.resolve = gateway.resolve.uncached := by
  simp only [resolve, uncached, List.map_map]
  rfl

end Config

/-! ## Runs -/

variable {transport : Transport} {context : Context} {endpoint : Config.Endpoint}

theorem Run.backends_uncached (stages : List Config.Backend) (run : Run) :
    Run.backends transport context endpoint.uncached stages run = Run.backends transport context endpoint stages run := by
  induction stages generalizing run with
  | nil => rfl
  | cons next rest ih =>
    have step : run.backend transport context endpoint.uncached next = run.backend transport context endpoint next := rfl
    simp only [Run.backends, step, ih]

/-- A run does not depend on whether its response is cached. -/
theorem Config.Gateway.handle_uncached (gateway : Gateway) (transport : Transport) (context : Context)
    (endpoint : Endpoint) (request : Request) :
    gateway.uncached.handle transport context endpoint.uncached request =
      gateway.handle transport context endpoint request := by
  have same : gateway.uncached.run transport context endpoint.uncached request =
      gateway.run transport context endpoint request := Run.backends_uncached _ _
  unfold handle
  rw [same]
  rfl

/-! ## Caches -/

/-- Nothing that can be served comes from a cache, whatever its state. -/
def Cache.Access.Broken {σ : Type} (access : Access σ) : Prop :=
  ∀ state now key hit, (access.get state now key).2 = .hit hit → Stored.decode? hit.value = none

namespace Http

/-- The request at the endpoint without caching. -/
def Accepted.uncached (accepted : Accepted) : Accepted := { accepted with endpoint := accepted.endpoint.uncached }

/-- The event, for a gateway without caching. -/
def Event.uncached : Event → Event
  | .visit request => .visit request
  | .reload gateway => .reload gateway.uncached

namespace Service

variable {σ τ : Type} {service : Service σ} {plain : Service τ} {access : Cache.Access σ} {other : Cache.Access τ}
  {arrival : Arrival} {inbound : Inbound} {accepted : Accepted}

theorem answerFromCache_of_broken (broken : access.Broken) (service : Service σ) (arrival : Arrival) (accepted : Accepted) :
    (service.answerFromCache access arrival accepted).2 = none := by
  unfold answerFromCache
  split
  · split
    · rfl
    · rename_i key _ _
      unfold cached
      split
      · rename_i cache hit found
        have useless := broken service.cache arrival.now key hit (congrArg Prod.snd found)
        simp only [useless]
      · rfl
  · rfl

theorem answerFromCache_uncached (service : Service σ) (access : Cache.Access σ) (arrival : Arrival) (accepted : Accepted) :
    (service.answerFromCache access arrival accepted.uncached).2 = none := by
  rfl

/-! ## Two services side by side -/

/-- A service is in step with one that does not cache: its gateway and its limiter are the same, its cache is anything. -/
structure InStepWith (service : Service σ) (plain : Service τ) : Prop where
  gateway : plain.gateway = service.gateway.uncached
  table : plain.table = service.table
  limiter : plain.limiter = service.limiter

theorem inStepWith_start (gateway : Config.Gateway) (cache : σ) (idle : τ) :
    (start gateway cache).InStepWith (start gateway.uncached idle) := by
  refine ⟨Config.Gateway.resolve_uncached gateway, ?_, rfl⟩
  simp only [start, Config.Gateway.resolve_uncached]
  exact Route.Table.ofEndpoints_map Config.Endpoint.uncached (fun _ => rfl) (fun _ => rfl) gateway.resolve.endpoints

theorem InStepWith.reload (inStep : service.InStepWith plain) (gateway : Config.Gateway) :
    (service.reload gateway).InStepWith (plain.reload gateway.uncached) := by
  obtain ⟨gateways, tables, _⟩ := inStepWith_start gateway service.cache plain.cache
  exact ⟨gateways, tables, inStep.limiter⟩

theorem accept_uncached (endpoint : Config.Endpoint) (params : Params) (inbound : Inbound) (arrival : Arrival) :
    accept endpoint.uncached params inbound arrival = (accept endpoint params inbound arrival).map Accepted.uncached := by
  simp only [accept, Config.Endpoint.uncached]
  cases Limit.checkHeader endpoint.effective.limits inbound.header with
  | error failure => rfl
  | ok _ => cases Limit.readBody endpoint.effective.limits inbound.header inbound.bytes <;> rfl

theorem InStepWith.admission (inStep : service.InStepWith plain) (arrival : Arrival) (inbound : Inbound) :
    plain.admission arrival inbound =
      ((service.admission arrival inbound).1, (service.admission arrival inbound).2.map Accepted.uncached) := by
  simp only [Service.admission, inStep.gateway, inStep.table, inStep.limiter]
  cases service.table.lookup inbound.method inbound.target.path with
  | error failure => rfl
  | ok route =>
    simp only [Config.Gateway.uncached, List.getElem?_map]
    cases service.gateway.endpoints[route.endpoint]? with
    | none => rfl
    | some endpoint =>
      dsimp only [Option.map_some]
      -- The limiter sees the name and the rate of the endpoint, which do not depend on caching.
      have checked : service.limiter.check arrival.now endpoint.uncached.id arrival.client
          endpoint.uncached.effective.limits.rate =
        service.limiter.check arrival.now endpoint.id arrival.client endpoint.effective.limits.rate := rfl
      rw [accept_uncached, checked]
      obtain ⟨limiter, allowed⟩ :=
        service.limiter.check arrival.now endpoint.id arrival.client endpoint.effective.limits.rate
      cases allowed with
      | false => rfl
      | true => cases accept endpoint route.params inbound arrival <;> rfl

theorem InStepWith.runOf (inStep : service.InStepWith plain) (transport : Transport) (arrival : Arrival)
    (accepted : Accepted) :
    plain.runOf transport arrival accepted.uncached = service.runOf transport arrival accepted := by
  simp only [Service.runOf, inStep.gateway]
  exact Config.Gateway.handle_uncached service.gateway transport _ accepted.endpoint accepted.request

theorem InStepWith.orchestrate (inStep : service.InStepWith plain) (transport : Transport) (arrival : Arrival)
    (accepted : Accepted) :
    plain.orchestrate transport arrival accepted.uncached = service.orchestrate transport arrival accepted := by
  simp only [Service.orchestrate, inStep.runOf]
  rfl

theorem InStepWith.answer (inStep : service.InStepWith plain) (broken : access.Broken) (other : Cache.Access τ)
    (transport : Transport) (arrival : Arrival) (accepted : Accepted) :
    (service.answer access transport arrival accepted).2 =
      (plain.answer other transport arrival accepted.uncached).2 := by
  rw [answer_snd transport (answerFromCache_of_broken broken service arrival accepted),
    answer_snd transport (answerFromCache_uncached plain other arrival accepted), inStep.orchestrate, inStep.runOf]
  rfl

theorem InStepWith.serve (inStep : service.InStepWith plain) (broken : access.Broken) (other : Cache.Access τ)
    (transport : Transport) (arrival : Arrival) (inbound : Inbound) :
    (service.serve access transport arrival inbound).2 = (plain.serve other transport arrival inbound).2 ∧
      (service.serve access transport arrival inbound).1.InStepWith (plain.serve other transport arrival inbound).1 := by
  have admissions := inStep.admission arrival inbound
  constructor
  · rw [serve_eq, serve_eq, admissions]
    obtain ⟨limiter, result⟩ := service.admission arrival inbound
    cases result with
    | error refusal => rfl
    | ok accepted =>
      -- The caches may differ from here on; only gateway, table and limiter decide what is answered.
      have still : ({ service with limiter := limiter } : Service σ).InStepWith
        ({ plain with limiter := limiter } : Service τ) := ⟨inStep.gateway, inStep.table, rfl⟩
      exact still.answer broken other transport arrival accepted
  · obtain ⟨cache, left⟩ := serve_fst service access transport arrival inbound
    obtain ⟨idle, right⟩ := serve_fst plain other transport arrival inbound
    rw [left, right]
    refine ⟨inStep.gateway, inStep.table, ?_⟩
    rw [admissions]

/-! ## Sequences of requests and reloads -/

/-- What goes out, request after request, and the calls made for each. -/
def exchanges (access : Cache.Access σ) : Service σ → List Event → List (Rendered × List Call)
  | _, [] => []
  | service, .reload gateway :: rest => exchanges access (service.reload gateway) rest
  | service, .visit next :: rest =>
    let exchanged := service.exchange access next.transport next.arrival next.inbound
    exchanged.2 :: exchanges access exchanged.1 rest

theorem InStepWith.exchanges (inStep : service.InStepWith plain) (broken : access.Broken) (other : Cache.Access τ)
    (events : List Event) :
    service.exchanges access events = plain.exchanges other (events.map Event.uncached) := by
  induction events generalizing service plain with
  | nil => rfl
  | cons event rest ih =>
    cases event with
    | reload gateway => exact ih (inStep.reload gateway)
    | visit next =>
      obtain ⟨served, after⟩ :=
        inStep.serve broken other next.transport next.arrival (next.inbound.identified next.arrival.freshId)
      have same : (service.exchange access next.transport next.arrival next.inbound).2 =
          (plain.exchange other next.transport next.arrival next.inbound).2 := by
        simp only [exchange, served]
      simp only [Service.exchanges, List.map_cons, Event.uncached, same]
      exact congrArg (_ :: ·) (ih after)

/-- A broken cache is invisible. However a service goes through requests and reloads, over a cache that gives nothing that
can be served it answers as one that has caching switched off at every endpoint, and it makes the same calls. -/
theorem exchanges_of_broken (broken : access.Broken) (other : Cache.Access τ) (gateway : Config.Gateway) (cache : σ)
    (idle : τ) (events : List Event) :
    (start gateway cache).exchanges access events =
      (start gateway.uncached idle).exchanges other (events.map Event.uncached) :=
  (inStepWith_start gateway cache idle).exchanges broken other events

/-- A cache that misses, fails and gives garbage by turns, whatever it is told to keep. It removes nothing. -/
def garbling : Cache.Access Nat where
  get turn _ _ := (turn + 1, if turn % 3 = 0 then .miss else if turn % 3 = 1 then .failed else .hit ⟨"garbage", 1000⟩)
  set turn _ _ _ _ := turn + 1
  del turn _ := turn

theorem exchanges_of_broken_garbling : garbling.Broken ∧
    (start keepingGateway 0).exchanges garbling [.visit (visitAt 0), .visit (visitAt 1), .visit (visitAt 2)] =
      (start keepingGateway.uncached 0).exchanges garbling
        [.visit (visitAt 0), .visit (visitAt 1), .visit (visitAt 2)] := by
  have broken : garbling.Broken := by
    intro turn now key hit found
    have garbage : hit.value = "garbage" := by
      dsimp only [garbling] at found
      split at found
      · cases found
      · split at found
        · cases found
        · cases found
          rfl
    rw [garbage]
    decide +kernel
  exact ⟨broken, exchanges_of_broken broken garbling keepingGateway 0 0 _⟩

end Service
end Http
end Junction
