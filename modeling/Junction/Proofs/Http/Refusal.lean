import Junction.Proofs.Http.Admission

/-!
Requests that are refused before any work is done for them. There are five grounds, asked one after another, and the
first one that applies decides the status. The cache is not touched and no backend is called; of the limiter only the
bucket of the client at the endpoint is drawn on, and only if there is a route.
-/

namespace Junction.Limit

variable {limits : Config.Limits} {header : Header} {size : Nat}

theorem readBody_of_declared (bytes : ByteArray)
    (declared : declaredSize? header = some size) (large : limits.maxBodySize < size) :
    readBody limits header bytes = .error (.bodyTooLarge size limits.maxBodySize) := by
  simp only [readBody, declared, checkBody, large, if_true]
  rfl

theorem readBody_of_undeclared (bytes : ByteArray)
    (declared : (declaredSize? header).any (fun size => limits.maxBodySize < size) = false) :
    readBody limits header bytes = if limits.maxBodySize < bytes.size then .error .bodyOverflow else .ok bytes := by
  cases given : declaredSize? header with
  | none =>
    simp only [readBody, given]
    rfl
  | some size =>
    have fits : ¬ limits.maxBodySize < size := by simpa [given] using declared
    simp only [readBody, given, checkBody, fits, if_false]
    rfl

end Junction.Limit

namespace Junction.Http

/-- Why a request is refused. -/
inductive Ground where
  /-- There is no route for it. -/
  | unrouted
  /-- Its client has no token left. -/
  | limited
  | headerSize
  | declaredSize
  | bodySize
deriving DecidableEq

/-- The statuses of a refusal. -/
def Ground.statuses : Ground → List Nat
  | unrouted => [404, 405]
  | limited => [429]
  | headerSize => [413]
  | declaredSize => [413]
  | bodySize => [413]

namespace Service

variable {σ : Type} {service : Service σ} {arrival : Arrival} {inbound : Inbound} {endpoint : Config.Endpoint}
  {params : Params} {failure : Failure} {route : Route.Match} {ground : Ground}

/-- The endpoint that a request comes to. -/
def endpoint? (service : Service σ) (inbound : Inbound) : Option Config.Endpoint :=
  match service.table.lookup inbound.method inbound.target.path with
  | .error _ => none
  | .ok route => service.gateway.endpoints[route.endpoint]?

/-- A ground for which a request is to be refused. -/
def applies (service : Service σ) (arrival : Arrival) (inbound : Inbound) : Ground → Bool
  | .unrouted => (service.endpoint? inbound).isNone
  | .limited => (service.endpoint? inbound).any fun endpoint =>
      !(service.limiter.sweeping (arrival.check endpoint)).2
  | .headerSize => (service.endpoint? inbound).any fun endpoint =>
      endpoint.effective.limits.maxHeaderSize < inbound.header.byteSize
  | .declaredSize => (service.endpoint? inbound).any fun endpoint =>
      (Limit.declaredSize? inbound.header).any fun size => endpoint.effective.limits.maxBodySize < size
  | .bodySize => (service.endpoint? inbound).any fun endpoint =>
      endpoint.effective.limits.maxBodySize < inbound.bytes.size

/-- The first ground that applies. -/
def ground? (service : Service σ) (arrival : Arrival) (inbound : Inbound) : Option Ground :=
  [.unrouted, .limited, .headerSize, .declaredSize, .bodySize].find? (service.applies arrival inbound)

/-! ## Sizes -/

theorem accept_of_headerSize (large : endpoint.effective.limits.maxHeaderSize < inbound.header.byteSize) :
    accept endpoint params inbound arrival =
      .error (.headerTooLarge inbound.header.byteSize endpoint.effective.limits.maxHeaderSize) := by
  simp only [accept, Limit.checkHeader, large, if_true]
  rfl

/-- A header that is small enough leaves the body to be read. -/
theorem accept_of_header (small : ¬ endpoint.effective.limits.maxHeaderSize < inbound.header.byteSize) :
    accept endpoint params inbound arrival =
      (Limit.readBody endpoint.effective.limits inbound.header inbound.bytes).map fun bytes =>
        ⟨endpoint, { inbound with bytes := bytes }.request endpoint params,
          requestId inbound.header arrival.freshId⟩ := by
  simp only [accept, Limit.checkHeader, small, if_false]
  rfl

/-! ## The ground that decides -/

theorem endpoint?_cases (built : service.table = .ofEndpoints service.gateway.endpoints) (inbound : Inbound) :
    (∃ failure, service.table.lookup inbound.method inbound.target.path = .error failure ∧
        service.endpoint? inbound = none) ∨
      ∃ route endpoint, service.table.lookup inbound.method inbound.target.path = .ok route ∧
        service.gateway.endpoints[route.endpoint]? = some endpoint ∧ service.endpoint? inbound = some endpoint := by
  cases routed : service.table.lookup inbound.method inbound.target.path with
  | error failure =>
    left
    exact ⟨failure, rfl, by simp only [endpoint?, routed]⟩
  | ok route =>
    right
    rw [built] at routed
    obtain ⟨endpoint, there⟩ := Route.Table.endpoint_of_lookup routed
    rw [← built] at routed
    exact ⟨route, endpoint, rfl, there, by simp only [endpoint?, routed, there]⟩

theorem admission_of_route (routed : service.table.lookup inbound.method inbound.target.path = .ok route)
    (there : service.gateway.endpoints[route.endpoint]? = some endpoint) :
    service.admission arrival inbound =
      ((service.limiter.sweeping (arrival.check endpoint)).1,
        if (service.limiter.sweeping (arrival.check endpoint)).2 then
          (accept endpoint route.params inbound arrival).mapError (endpoint.path, ·)
        else .error (endpoint.path, .tooManyRequests)) := by
  simp only [admission, routed, there]
  rfl

/-- A request is refused exactly when a ground applies, with a status of the first one. -/
theorem admission_of_built (built : service.table = .ofEndpoints service.gateway.endpoints) (arrival : Arrival)
    (inbound : Inbound) :
    match service.ground? arrival inbound with
    | some ground => ∃ path failure, (service.admission arrival inbound).2 = .error (path, failure) ∧
        failure.kind.status ∈ ground.statuses
    | none => ∃ accepted, (service.admission arrival inbound).2 = .ok accepted := by
  rcases endpoint?_cases built inbound with ⟨failure, unrouted, nowhere⟩ | ⟨route, endpoint, routed, there, target⟩
  · have decides : service.ground? arrival inbound = some .unrouted := by simp [ground?, applies, nowhere]
    rw [decides]
    refine ⟨inbound.target.path, failure, by simp only [admission, unrouted], ?_⟩
    simpa [Ground.statuses] using Route.Table.status_of_lookup unrouted
  · rw [admission_of_route routed there]
    -- One case for each ground, in the order in which the service asks.
    cases allowed : (service.limiter.sweeping (arrival.check endpoint)).2 with
    | false =>
      have decides : service.ground? arrival inbound = some .limited := by simp [ground?, applies, target, allowed]
      rw [decides]
      exact ⟨endpoint.path, .tooManyRequests, rfl, List.mem_singleton.mpr rfl⟩
    | true =>
      by_cases header : endpoint.effective.limits.maxHeaderSize < inbound.header.byteSize
      · have decides : service.ground? arrival inbound = some .headerSize := by
          simp [ground?, applies, target, allowed, header]
        rw [decides, accept_of_headerSize header]
        exact ⟨endpoint.path, _, rfl, List.mem_singleton.mpr rfl⟩
      · cases declared : (Limit.declaredSize? inbound.header).any
          fun size => endpoint.effective.limits.maxBodySize < size with
        | true =>
          have decides : service.ground? arrival inbound = some .declaredSize := by
            simp [ground?, applies, target, allowed, header, declared]
          obtain ⟨size, given, large⟩ := (Option.any_eq_true _ _).mp declared
          rw [decides, accept_of_header header, Limit.readBody_of_declared _ given (by simpa using large)]
          exact ⟨endpoint.path, _, rfl, List.mem_singleton.mpr rfl⟩
        | false =>
          rw [accept_of_header header, Limit.readBody_of_undeclared _ declared]
          by_cases body : endpoint.effective.limits.maxBodySize < inbound.bytes.size
          · have decides : service.ground? arrival inbound = some .bodySize := by
              simp [ground?, applies, target, allowed, header, declared, body]
            rw [decides, if_pos body]
            exact ⟨endpoint.path, _, rfl, List.mem_singleton.mpr rfl⟩
          · have decides : service.ground? arrival inbound = none := by
              simp [ground?, applies, target, allowed, header, declared, body]
            rw [decides, if_neg body]
            exact ⟨_, rfl⟩

theorem admission_fst (built : service.table = .ofEndpoints service.gateway.endpoints) (arrival : Arrival)
    (inbound : Inbound) :
    (service.admission arrival inbound).1 =
      match service.endpoint? inbound with
      | none => service.limiter
      | some endpoint => (service.limiter.sweeping (arrival.check endpoint)).1 := by
  rcases endpoint?_cases built inbound with ⟨failure, unrouted, nowhere⟩ | ⟨route, endpoint, routed, there, target⟩
  · simp only [nowhere, admission, unrouted]
  · simp only [target, admission_of_route routed there]

theorem status_render (arrival : Arrival) (path : String) (failure : Failure) (id : String) :
    ((Rendered.ofResponse (refuse arrival path failure).response).identified id).status = failure.kind.status := by
  have sent : Rendered.statusOf failure.kind.status = failure.kind.status := by cases failure.kind <;> rfl
  unfold Rendered.identified
  dsimp only
  split
  · exact sent
  · exact sent

/-! ## Rejection before work -/

/-- How a service deals with a request before it works on it, and the limiter that it leaves. What goes out does not
depend on the cache nor on the backends when a ground applies, and neither of them is asked. -/
structure Screens (service : Service σ) (arrival : Arrival) (inbound : Inbound) (left : Limit.Limiter) : Prop where
  limiter : ∀ access transport, (service.exchange access transport arrival inbound).1.limiter = left
  untouched : service.endpoint? (inbound.identified arrival.freshId) = none → left = service.limiter
  drawn : ∀ endpoint, service.endpoint? (inbound.identified arrival.freshId) = some endpoint →
    endpoint.effective.limits.rate.capacity ≠ 0 → service.limiter.Draws (arrival.check endpoint) left
  refused : ∀ ground, service.ground? arrival (inbound.identified arrival.freshId) = some ground →
    ∃ rendered : Rendered, rendered.status ∈ ground.statuses ∧ ∀ access transport,
      service.exchange access transport arrival inbound = ({ service with limiter := left }, rendered, [])
  admitted : service.ground? arrival (inbound.identified arrival.freshId) = none →
    ∃ accepted, ∀ access transport, service.serve access transport arrival (inbound.identified arrival.freshId) =
      ({ service with limiter := left } : Service σ).answer access transport arrival accepted

theorem serve_of_ground (built : service.table = .ofEndpoints service.gateway.endpoints)
    (decides : service.ground? arrival inbound = some ground) :
    ∃ path failure, failure.kind.status ∈ ground.statuses ∧ ∀ access transport,
      service.serve access transport arrival inbound =
        ({ service with limiter := (service.admission arrival inbound).1 }, refuse arrival path failure) := by
  have decided := admission_of_built built arrival inbound
  rw [decides] at decided
  obtain ⟨path, failure, refused, listed⟩ := decided
  refine ⟨path, failure, listed, ?_⟩
  intro access transport
  have turned : service.admission arrival inbound = ((service.admission arrival inbound).1, .error (path, failure)) :=
    Prod.ext rfl refused
  rw [serve_eq, turned]

theorem serve_of_no_ground (built : service.table = .ofEndpoints service.gateway.endpoints)
    (fits : service.ground? arrival inbound = none) :
    ∃ accepted, ∀ access transport, service.serve access transport arrival inbound =
      ({ service with limiter := (service.admission arrival inbound).1 } : Service σ).answer access transport arrival
        accepted := by
  have decided := admission_of_built built arrival inbound
  rw [fits] at decided
  obtain ⟨accepted, let_in⟩ := decided
  refine ⟨accepted, ?_⟩
  intro access transport
  have turned : service.admission arrival inbound = ((service.admission arrival inbound).1, .ok accepted) :=
    Prod.ext rfl let_in
  rw [serve_eq, turned]

theorem screens_of_built (built : service.table = .ofEndpoints service.gateway.endpoints) (inbound : Inbound)
    (plain : '|' ∉ arrival.client.toList) :
    service.Screens arrival inbound (service.admission arrival (inbound.identified arrival.freshId)).1 := by
  have left := admission_fst built arrival (inbound.identified arrival.freshId)
  constructor
  · intro access transport
    obtain ⟨cache, served⟩ := serve_fst service access transport arrival (inbound.identified arrival.freshId)
    exact congrArg Service.limiter served
  · intro nowhere
    rw [left, nowhere]
  · intro endpoint target limited
    rw [left, target]
    exact Limit.Limiter.draws_sweeping service.limiter limited plain
  · intro ground decides
    obtain ⟨path, failure, listed, serves⟩ := serve_of_ground built decides
    let id := Text.ofBytes (((inbound.identified arrival.freshId).first? Header.requestId).getD .empty)
    refine ⟨(Rendered.ofResponse (refuse arrival path failure).response).identified id, ?_, ?_⟩
    · rw [status_render]
      exact listed
    · intro access transport
      simp only [exchange, serves]
      rfl
  · exact serve_of_no_ground built

/-- Rejection before work. Whatever the limiter has seen, a request gets the status of the first ground that applies, and
only where there is none it is answered. Without a route the limiter stays as it is; with one, a rate takes at most one
token, of the bucket of the client at the endpoint. Clients are addresses, which hold no bar. -/
theorem screens_start (gateway : Config.Gateway) (limiter : Limit.Limiter) (cache : σ) (arrival : Arrival)
    (inbound : Inbound) (plain : '|' ∉ arrival.client.toList) :
    ∃ left, ({ start gateway cache with limiter := limiter } : Service σ).Screens arrival inbound left :=
  ⟨_, screens_of_built rfl inbound plain⟩

/-- The limits of one request in a second, without a byte in header or body. -/
def narrowLimits : Config.LimitsOverride := { maxHeaderSize := some 0, maxBodySize := some 0, rate := some ⟨1, 1000⟩ }

/-- A gateway whose endpoint has narrow limits. -/
def narrowGateway : Config.Gateway :=
  { endpoints := [{ path := "/e", limits := narrowLimits, backends := [{ hosts := ["h"] }] }] }

/-- An arrival for the endpoint of `narrowGateway`. -/
def firstArrival : Arrival := { now := 0, client := "127.0.0.1", freshId := "id", stamp := default }

/-- A request of one byte to the endpoint of `narrowGateway`. -/
def byteInbound : Inbound := { method := "GET", target := ⟨"/e", "/e", ""⟩, fields := [], bytes := ⟨#[0]⟩ }

/-- A request whose header and body are both too large is refused for its header. -/
theorem screens_start_narrow :
    '|' ∉ firstArrival.client.toList ∧
      (start narrowGateway ()).ground? firstArrival (byteInbound.identified firstArrival.freshId) = some .headerSize ∧
      ∃ (left : Limit.Limiter) (rendered : Rendered), rendered.status = 413 ∧ ∀ access transport,
        (start narrowGateway ()).exchange access transport firstArrival byteInbound =
          ({ start narrowGateway () with limiter := left }, rendered, []) := by
  have plain : '|' ∉ firstArrival.client.toList := by decide
  have decides : (start narrowGateway ()).ground? firstArrival (byteInbound.identified firstArrival.freshId) =
      some .headerSize := by decide +kernel
  obtain ⟨left, screens⟩ := screens_start narrowGateway {} () firstArrival byteInbound plain
  obtain ⟨rendered, status, goes⟩ := screens.refused .headerSize decides
  exact ⟨plain, decides, left, rendered, List.mem_singleton.mp status, goes⟩

end Service
end Junction.Http
