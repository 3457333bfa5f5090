import Junction.Config.Gateway

/-!
Faults that a configuration can have although each of its values reads well.
-/

namespace Junction.Config

/-- A fault of a configuration. -/
inductive Fault where
  | path (endpoint : String)
  | noBackends (endpoint : String)
  | duplicate (endpoint : String)
  | noHosts (backend : String)
  | noKey (backend : String) (action : Action) (surface : Surface)
  | responseSurface (backend : String) (surface : Surface)
deriving DecidableEq, Repr, Inhabited

namespace Fault

/-- The wording of a fault. -/
def message : Fault → String
  | path endpoint => "endpoint " ++ endpoint ++ ": path must start with '/'"
  | noBackends endpoint => "endpoint " ++ endpoint ++ ": at least one backend is required"
  | duplicate endpoint => "endpoint " ++ endpoint ++ " is declared more than once"
  | noHosts backend => "backend " ++ backend ++ ": at least one host is required"
  | noKey backend action surface =>
    "backend " ++ backend ++ ": " ++ action.name ++ " modifier on " ++ surface.name ++ " requires a key"
  | responseSurface backend surface =>
    "backend " ++ backend ++ ": response scope modifiers only apply to header and body, not " ++ surface.name

end Fault

/-- A rule that works without a key: one that extends or sets a whole body. -/
def worksWithoutKey (surface : Surface) (action : Action) : Bool :=
  surface == .body && (action == .add || action == .set)

/-- The faults of one rule. -/
def ruleFaults (label : String) (rule : Surface × Modifier) : List Fault :=
  let (surface, modifier) := rule
  (if Text.isBlank modifier.key && !worksWithoutKey surface modifier.action then
    [.noKey label modifier.action surface] else []) ++
  (if modifier.scope == .response && (surface == .params || surface == .query) then
    [.responseSurface label surface] else [])

/-- The faults of a backend: first its hosts, then its rules by scope. -/
def backendFaults (backend : Backend) : List Fault :=
  (if backend.hosts.all Text.isBlank then [.noHosts backend.label] else []) ++
    (backend.modifiers.inScope .request ++ backend.modifiers.inScope .response).flatMap
      (ruleFaults backend.label)

/-- The faults of an endpoint after those with the given names. -/
def endpointFaults (seen : List String) (endpoint : Endpoint) : List Fault :=
  (if endpoint.path.toList.head? = some '/' then [] else [.path endpoint.id]) ++
    (if endpoint.backends.isEmpty then [.noBackends endpoint.id] else []) ++
    (if seen.contains endpoint.id then [.duplicate endpoint.id] else []) ++
    endpoint.backends.flatMap backendFaults

/-- The faults of endpoints after those with the given names. -/
def endpointsFaults : (seen : List String) → List Endpoint → List Fault
  | _, [] => []
  | seen, endpoint :: rest => endpointFaults seen endpoint ++ endpointsFaults (endpoint.id :: seen) rest

/-- The faults of a configuration: endpoint by endpoint, then the middlewares by name. -/
def faults (gateway : Gateway) : List Fault :=
  endpointsFaults [] gateway.endpoints ++
    gateway.middlewares.entries.flatMap fun middleware => backendFaults middleware.2

end Junction.Config
