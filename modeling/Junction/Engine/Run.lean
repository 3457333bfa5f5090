import Junction.Config.Gateway
import Junction.Engine.Call
import Junction.Engine.Shape

/-!
The run of an endpoint: its backends are called one after another, until one of them ends the run.
-/

namespace Junction

/-- What holds for all calls of a run. -/
structure Context where
  requestId : String
  policy : Change.Policy
  /-- What error bodies of the run tell about their making. -/
  stamp : Failure.Stamp
deriving Inhabited

/-- A run: the request and the response so far, and the calls that have been made. -/
structure Run where
  request : Request
  response : Response := {}
  calls : List Call := []
deriving Inhabited

namespace Config.Backend

/-- What a backend is sent before its own rules: the parts of the request that are forwarded to it. -/
def forwarded (backend : Backend) (request : Request) : Request :=
  { Request.of (backend.method.getD request.method) request.url backend.path with
    params := request.params
    header := (request.header.filter backend.forwardHeaders).withoutTransport
    query := request.query.filter backend.forwardQueries
    body := request.body }

/-- What a backend is sent: what is forwarded, changed by the rules that do not propagate, at the last host. -/
def snapshot (backend : Backend) (context : Context) (request : Request) (response : Response) :
    Except Failure Snapshot :=
  match backend.hosts.getLast? with
  | none => .error (.noHost backend.name)
  | some host =>
    match (backend.forwarded request).applyRules context.policy (some request) response
      (backend.modifiers.onRequest false) with
    | .error (_, failure) => .error failure
    | .ok draft =>
      .ok (.of host (draft.params.fill backend.path) draft.method
        (draft.header.set Header.requestId context.requestId) draft.query draft.params draft.body)

end Config.Backend

namespace Run

/-- The run ended by a failure. -/
def fail (run : Run) (context : Context) (endpoint : Config.Endpoint) (failure : Failure) : Run :=
  { run with response := run.response.fail context.stamp endpoint.path failure }

/-- The run with the entry of a reply: the entry is shaped unless that is put off, and ends the run if its
status does. -/
def receive (run : Run) (context : Context) (endpoint : Config.Endpoint) (entry : Entry) : Run :=
  let shaped := match entry.backend.response.apply with
    | .early => entry.shape context.policy run.request (run.response.append entry)
    | .late => .ok entry
  match shaped with
  | .error failure => run.fail context endpoint failure
  | .ok entry =>
    { run with
      response := if endpoint.aborts entry.status then run.response.abortWith entry else run.response.append entry }

/-- The run after a call. -/
def send (run : Run) (transport : Transport) (context : Context) (endpoint : Config.Endpoint)
    (backend : Config.Backend) (snapshot : Snapshot) : Run :=
  let called := { run with
    request := run.request.record snapshot
    calls := run.calls ++ [snapshot.call] }
  match transport run.calls snapshot.call with
  | .error error => called.fail context endpoint error.failure
  | .ok reply => called.receive context endpoint (reply.entry backend)

/-- The run after one backend: the rules that propagate change the request, then the backend is called. -/
def backend (run : Run) (transport : Transport) (context : Context) (endpoint : Config.Endpoint)
    (backend : Config.Backend) : Run :=
  match run.request.applyRules context.policy none run.response (backend.modifiers.onRequest true) with
  | .error (request, failure) => { run with request := request }.fail context endpoint failure
  | .ok request =>
    let run := { run with request := request }
    match backend.snapshot context request run.response with
    | .error failure => run.fail context endpoint failure
    | .ok snapshot => run.send transport context endpoint backend snapshot

/-- The run after backends, one after another until its response is terminal. -/
def backends (transport : Transport) (context : Context) (endpoint : Config.Endpoint) :
    List Config.Backend → Run → Run
  | [], run => run
  | next :: rest, run =>
    let run := run.backend transport context endpoint next
    if run.response.isTerminal then run else backends transport context endpoint rest run

end Run

/-- The backends of an endpoint in the order of their calls: those before, its own, those after. -/
def Config.Gateway.stages (gateway : Gateway) (endpoint : Endpoint) : List Backend :=
  gateway.known endpoint.beforewares ++ endpoint.backends ++ gateway.known endpoint.afterwares

/-- The run of an endpoint on a request. -/
def Config.Gateway.run (gateway : Gateway) (transport : Transport) (context : Context) (endpoint : Endpoint)
    (request : Request) : Run :=
  Run.backends transport context endpoint (gateway.stages endpoint) { request := request }

end Junction
