import Junction.Config.Endpoint
import Junction.Data.Sorted
import Junction.Change.Policy

/-!
The configuration of a gateway. Resolving it gives every endpoint the settings that hold for it: its own
where it sets them, else those of the gateway.
-/

namespace Junction.Config

/-- What the gateway tells about its work. -/
structure Observability where
  logLevel : String := "info"
  jsonLogs : Bool := false
  metricsEnabled : Bool := false
  metricsAddress : String := "0.0.0.0:9090"
deriving DecidableEq, Repr, Inhabited

/-- The fields of observability. -/
def Observability.fields : List (Reader.Field Observability) :=
  [.field "log_level" Reader.text fun found all => { all with logLevel := found },
    .field "json_logs" Reader.flag fun found all => { all with jsonLogs := found },
    .field "metrics_enabled" Reader.flag fun found all => { all with metricsEnabled := found },
    .field "metrics_address" Reader.text fun found all => { all with metricsAddress := found }]

/-- Observability as an object. -/
def Observability.toJson (all : Observability) : Json :=
  .object [("log_level", .text all.logLevel), ("json_logs", .bool all.jsonLogs),
    ("metrics_enabled", .bool all.metricsEnabled), ("metrics_address", .text all.metricsAddress)]

/-- The configuration of a gateway. -/
structure Gateway where
  bindAddress : String := "0.0.0.0:8080"
  policy : Change.Policy := .failOpen
  observability : Observability := {}
  timeoutMs : Nat := 30000
  limits : Limits := {}
  caching : Caching := {}
  /-- Backends that endpoints name to run before or after their own. -/
  middlewares : Sorted Backend := ∅
  endpoints : List Endpoint := []
deriving Inhabited

namespace Gateway

/-- The field of the listener. -/
def bindFields : List (Reader.Field String) := [.field "bind_address" Reader.text fun found _ => found]

/-- The field of the engine's switches. -/
def policyFields : List (Reader.Field Change.Policy) :=
  [.field "modifier_errors" (Reader.variant Change.Policy.ofName?) fun found _ => found]

/-- The fields of a gateway. -/
def fields : List (Reader.Field Gateway) :=
  [.field "listener" (Reader.record bindFields "0.0.0.0:8080")
      fun found gateway => { gateway with bindAddress := found },
    .field "settings" (Reader.record policyFields .failOpen) fun found gateway => { gateway with policy := found },
    .field "observability" (Reader.record Observability.fields {})
      fun found gateway => { gateway with observability := found },
    .field "timeout_ms" Reader.word fun found gateway => { gateway with timeoutMs := found },
    .field "limiter" Limits.read fun found gateway => { gateway with limits := found },
    .field "cache" Caching.read fun found gateway => { gateway with caching := found },
    .field "middlewares" (Reader.table Backend.read)
      fun found gateway => { gateway with middlewares := .ofList found },
    .field "endpoints" (Reader.list Endpoint.read) fun found gateway => { gateway with endpoints := found }]

/-- A gateway; every field may be left out. -/
def read : Reader Gateway := Reader.record fields {}

/-- A gateway as an object. -/
def toJson (gateway : Gateway) : Json :=
  .object [("listener", .object [("bind_address", .text gateway.bindAddress)]),
    ("settings", .object [("modifier_errors", .text gateway.policy.name)]),
    ("observability", gateway.observability.toJson), ("timeout_ms", Json.ofNat gateway.timeoutMs),
    ("limiter", gateway.limits.toJson), ("cache", gateway.caching.toJson),
    ("middlewares", .object (gateway.middlewares.entries.map fun (name, backend) => (name, backend.toJson))),
    ("endpoints", .array (gateway.endpoints.map (·.toJson)))]

/-- The middleware with a name. -/
def middleware? (gateway : Gateway) (name : String) : Option Backend := gateway.middlewares.get? name

/-- The middlewares that names stand for; a name that stands for none is passed over. -/
def known (gateway : Gateway) (names : List String) : List Backend := names.filterMap gateway.middleware?

/-- The number of backends that run for an endpoint. -/
def backendCount (gateway : Gateway) (endpoint : Endpoint) : Nat :=
  ((endpoint.beforewares ++ endpoint.afterwares).filter gateway.middlewares.contains).length +
    endpoint.backends.length

/-- The settings that hold for an endpoint. -/
def effective (gateway : Gateway) (endpoint : Endpoint) : Effective :=
  { timeoutMs := endpoint.timeoutMs.getD gateway.timeoutMs
    limits := endpoint.limits.applyTo gateway.limits
    caching := endpoint.caching.applyTo gateway.caching
    backendCount := gateway.backendCount endpoint }

/-- The gateway with the settings that hold for each endpoint. -/
def resolve (gateway : Gateway) : Gateway :=
  { gateway with
    endpoints := gateway.endpoints.map fun endpoint => { endpoint with effective := gateway.effective endpoint } }

end Gateway
end Junction.Config
