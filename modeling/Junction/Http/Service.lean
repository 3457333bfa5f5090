import Junction.Cache.Access
import Junction.Cache.Key
import Junction.Cache.Stored
import Junction.Engine.Final
import Junction.Http.Inbound
import Junction.Http.Rendered
import Junction.Http.Supervision
import Junction.Limit.Rate
import Junction.Limit.Size
import Junction.Route.Table

/-!
The service of a gateway: every request is routed, checked against the limits of its endpoint, answered from
the cache or by a run, and perhaps kept in the cache. The configuration can be replaced between requests; the
limiter and the cache stay.
-/

namespace Junction.Http

/-- When and from where a request comes, and what its run is given. -/
structure Arrival where
  /-- The time at which the request comes, in milliseconds. -/
  now : Nat
  /-- The time that its run takes. -/
  tookMs : Nat := 0
  client : String
  /-- The id of a request that comes without one. -/
  freshId : String
  stamp : Failure.Stamp
deriving Inhabited

/-- The state of a service. -/
structure Service (σ : Type) where
  gateway : Config.Gateway
  table : Route.Table
  limiter : Limit.Limiter := {}
  cache : σ

/-- What a request is answered with, and the calls made for it. -/
structure Served where
  response : Response
  calls : List Call := []
deriving Inhabited

/-- A request that may be worked on: its header and its running request. -/
structure Accepted where
  endpoint : Config.Endpoint
  request : Request
  id : String
deriving Inhabited

namespace Service

variable {σ : Type}

/-- A service of a gateway over a cache. -/
def start (gateway : Config.Gateway) (cache : σ) : Service σ :=
  { gateway := gateway.resolve, table := .ofEndpoints gateway.resolve.endpoints, cache := cache }

/-- The service with another gateway. -/
def reload (service : Service σ) (gateway : Config.Gateway) : Service σ :=
  { service with gateway := gateway.resolve, table := .ofEndpoints gateway.resolve.endpoints }

/-! ## Acceptance -/

/-- The running request of an inbound one that keeps the size limits. -/
def accept (endpoint : Config.Endpoint) (params : Params) (inbound : Inbound) (arrival : Arrival) :
    Except Failure Accepted :=
  let limits := endpoint.effective.limits
  (Limit.checkHeader limits inbound.header).bind fun _ =>
    (Limit.readBody limits inbound.header inbound.bytes).map fun bytes =>
      { endpoint := endpoint
        request := { inbound with bytes := bytes }.request endpoint params
        id := requestId inbound.header arrival.freshId }

/-! ## Cache -/

/-- The key of a request whose response may be kept. -/
def cacheKey? (accepted : Accepted) : Option String :=
  let caching := accepted.endpoint.effective.caching
  if caching.enabled && caching.allowsMethod accepted.request.method then some (Cache.key accepted.request caching)
  else none

/-- The client may control the cache, and gives a directive. -/
def asks (accepted : Accepted) (directive : String) : Bool :=
  accepted.endpoint.effective.caching.allowControl &&
    ((accepted.request.header.getAll "Cache-Control").flatMap (Text.split ',')).any fun given =>
      Text.sameIgnoringCase (Text.trim given) directive

/-- The response that the cache has for a key; a text that is no stored response is removed. -/
def cached (service : Service σ) (access : Cache.Access σ) (arrival : Arrival) (key : String) :
    Service σ × Option Response :=
  match access.get service.cache arrival.now key with
  | (cache, .hit hit) =>
    match Cache.Stored.decode? hit.value with
    | some stored => ({ service with cache := cache }, some (stored.response hit.remainingMs))
    | none => ({ service with cache := access.del cache key }, none)
  | (cache, _) => ({ service with cache := cache }, none)

/-- The response that the cache has for a request, unless the client asks not to be answered from it. -/
def answerFromCache (service : Service σ) (access : Cache.Access σ) (arrival : Arrival) (accepted : Accepted) :
    Service σ × Option Response :=
  match cacheKey? accepted with
  | some key => if asks accepted "no-cache" then (service, none) else service.cached access arrival key
  | none => (service, none)

/-- A response to be kept: written, with a status that is kept, and without the client asking otherwise. -/
def isStorable (accepted : Accepted) (response : Response) : Bool :=
  !asks accepted "no-store" && response.written &&
    accepted.endpoint.effective.caching.allowsStatus response.status

/-- The service with a response in its cache, if it is to be kept. -/
def keep (service : Service σ) (access : Cache.Access σ) (arrival : Arrival) (accepted : Accepted)
    (response : Response) : Service σ :=
  match cacheKey? accepted with
  | some key =>
    if isStorable accepted response then
      let stored := (Cache.Stored.ofResponse response).encode
      let time := arrival.now + arrival.tookMs
      let forMs := accepted.endpoint.effective.caching.durationMs
      { service with cache := access.set service.cache time key stored forMs }
    else service
  | none => service

/-! ## Answers -/

/-- The run of an accepted request. -/
def runOf (service : Service σ) (transport : Transport) (arrival : Arrival) (accepted : Accepted) : Run :=
  let context : Context := ⟨accepted.id, service.gateway.policy, arrival.stamp⟩
  service.gateway.handle transport context accepted.endpoint accepted.request

/-- The answer of a run, which has the time of its endpoint. -/
def orchestrate (service : Service σ) (transport : Transport) (arrival : Arrival) (accepted : Accepted) :
    Except Failure Served :=
  let run := service.runOf transport arrival accepted
  supervise accepted.endpoint.effective.timeoutMs arrival.tookMs (some ⟨run.response, run.calls⟩)

/-- The response to a failure that no run has answered. -/
def refuse (arrival : Arrival) (endpoint : String) (failure : Failure) : Served :=
  ⟨({} : Response).fail arrival.stamp endpoint failure, []⟩

/-- The answer to an accepted request. Nobody waits for a run that has timed out, but it is not stopped: its calls are
made. -/
def answer (service : Service σ) (access : Cache.Access σ) (transport : Transport) (arrival : Arrival)
    (accepted : Accepted) : Service σ × Served :=
  match service.answerFromCache access arrival accepted with
  | (service, some response) => (service, ⟨response, []⟩)
  | (service, none) =>
    match service.orchestrate transport arrival accepted with
    | .error failure =>
      let calls := (service.runOf transport arrival accepted).calls
      (service, { refuse arrival accepted.endpoint.path failure with calls := calls })
    | .ok served => (service.keep access arrival accepted served.response, served)

/-- The answer to a request of an endpoint: first its rate is checked, then its sizes. -/
def serveEndpoint (service : Service σ) (access : Cache.Access σ) (transport : Transport) (arrival : Arrival)
    (endpoint : Config.Endpoint) (params : Params) (inbound : Inbound) : Service σ × Served :=
  let (limiter, allowed) :=
    service.limiter.check arrival.now endpoint.id arrival.client endpoint.effective.limits.rate
  let service := { service with limiter := limiter }
  if !allowed then (service, refuse arrival endpoint.path .tooManyRequests)
  else match accept endpoint params inbound arrival with
    | .error failure => (service, refuse arrival endpoint.path failure)
    | .ok accepted => service.answer access transport arrival accepted

/-- The answer to a request. -/
def serve (service : Service σ) (access : Cache.Access σ) (transport : Transport) (arrival : Arrival)
    (inbound : Inbound) : Service σ × Served :=
  match service.table.lookup inbound.method inbound.target.path with
  | .error failure => (service, refuse arrival inbound.target.path failure)
  | .ok route =>
    match service.gateway.endpoints[route.endpoint]? with
    | none => (service, refuse arrival inbound.target.path
        (.stated .internal "matched endpoint missing from configuration"))
    | some endpoint => service.serveEndpoint access transport arrival endpoint route.params inbound

/-- The answer to a request as it goes out. Request and answer carry the same id. -/
def exchange (service : Service σ) (access : Cache.Access σ) (transport : Transport) (arrival : Arrival)
    (inbound : Inbound) : Service σ × Rendered × List Call :=
  let inbound := inbound.identified arrival.freshId
  let (service, served) := service.serve access transport arrival inbound
  let id := Text.ofBytes ((inbound.first? Header.requestId).getD .empty)
  (service, (Rendered.ofResponse served.response).identified id, served.calls)

end Service
end Junction.Http
