import Junction.Engine.Run
import Junction.Proofs.Data.Sorted

/-!
Gateways up to the moments at which their backends shape responses. `timeless` sets all of them to the same.
-/

namespace Junction.Config

/-- The backend, shaping its responses as they arrive. -/
def Backend.timeless (backend : Backend) : Backend :=
  { backend with response := { backend.response with apply := .early } }

theorem Backend.timeless_of_getElem? {stages stages' : List Backend} {i : Nat} {backend backend' : Backend}
    (same : stages.map timeless = stages'.map timeless) (stage : stages[i]? = some backend)
    (stage' : stages'[i]? = some backend') : backend.timeless = backend'.timeless := by
  have listed := congrArg (·[i]?) same
  simpa only [List.getElem?_map, stage, stage', Option.map_some, Option.some.injEq] using listed

/-- The endpoint, with all moments the same. -/
def Endpoint.timeless (endpoint : Endpoint) : Endpoint :=
  { endpoint with backends := endpoint.backends.map Backend.timeless }

namespace Gateway

/-- The gateway, with all moments the same. -/
def timeless (gateway : Gateway) : Gateway :=
  { gateway with
    middlewares := gateway.middlewares.mapValues Backend.timeless
    endpoints := gateway.endpoints.map Endpoint.timeless }

theorem known_timeless (gateway : Gateway) (names : List String) :
    gateway.timeless.known names = (gateway.known names).map Backend.timeless := by
  have found : gateway.timeless.middleware? = fun name => (gateway.middleware? name).map Backend.timeless := by
    funext name
    exact Sorted.get?_mapValues Backend.timeless gateway.middlewares name
  rw [known, known, List.map_filterMap, found]

theorem stages_timeless (gateway : Gateway) (endpoint : Endpoint) :
    gateway.timeless.stages endpoint.timeless = (gateway.stages endpoint).map Backend.timeless := by
  simp only [stages, known_timeless, List.map_append]
  rfl

/-- Gateways and endpoints that differ in moments alone have stages that do. -/
theorem stages_of_timeless {one other : Gateway} {endpoint endpoint' : Endpoint} (gateways : one.timeless = other.timeless)
    (endpoints : endpoint.timeless = endpoint'.timeless) :
    (one.stages endpoint).map Backend.timeless = (other.stages endpoint').map Backend.timeless := by
  rw [← stages_timeless, gateways, endpoints, stages_timeless]

end Gateway
end Junction.Config
