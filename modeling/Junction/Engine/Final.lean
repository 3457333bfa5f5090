import Junction.Engine.Aggregate
import Junction.Engine.Run

/-!
The final response of a run: entries that are still to be shaped are shaped, those that are left out go, and
the bodies of the others become one.
-/

namespace Junction

/-- A body finished as its endpoint says: without empty values, in one spelling of keys, in one format. -/
def Body.finish (policy : Change.Policy) (finish : Config.Finish) (body : Body) : Except Failure Body :=
  (if finish.omitEmpty then recovered policy body.omitEmpty body else .ok body).bind fun body =>
    (match finish.keyCase with
      | some keyCase => recovered policy (body.withKeyCase keyCase) body
      | none => .ok body).bind fun body =>
      match finish.encode with
      | some format => recovered policy (body.convert format) body
      | none => .ok body

namespace Response

/-- The response with every entry shaped. -/
def shapeEntries (policy : Change.Policy) (request : Request) (response : Response) :
    Except Failure Response :=
  if response.history.all (·.shaped) then .ok response
  else (response.history.mapM (Entry.shape policy request response)).map response.withHistory

/-- The entries that become the final response: a single one in any case, of several those not left out. -/
def retained (history : List Entry) : List Entry :=
  if history.length > 1 then history.filter fun entry => !entry.omitted else history

/-- Status and body of the final response, and the last of the entries that make it. -/
def content (endpoint : Config.Endpoint) (entries : List Entry) (last : Entry) : Nat × Option Body :=
  if endpoint.effective.backendCount > 1 && entries.length > 1 then
    (200, some (.ofJson
      (if endpoint.response.aggregate then Aggregate.object entries else Aggregate.list entries)))
  else (last.status, last.body)

/-- The header of the final response: whether all backends answered, whether none with an error, and the
fields of the entries. -/
def finalHeader (endpoint : Config.Endpoint) (history entries : List Entry) : Header :=
  let complete := history.length == endpoint.effective.backendCount
  let success := entries.all (·.ok)
  entries.foldl (fun header entry => header.aggregate entry.header)
    ((Header.empty.set Header.complete (toString complete)).set Header.success (toString success))

/-- Status, header and body of the final response. -/
def assemble (policy : Change.Policy) (endpoint : Config.Endpoint) (history : List Entry) :
    Except Failure (Nat × Header × Option Body) :=
  let entries := retained history
  match entries.getLast? with
  | none => .error .respondedNothing
  | some last =>
    let header := finalHeader endpoint history entries
    match content endpoint entries last with
    | (status, none) => .ok (status, header, none)
    | (status, some body) =>
      (body.finish policy endpoint.response).map fun body => (status, header, some body)

/-- The final response of a run; one that is terminal stays as it is. -/
def write (context : Context) (endpoint : Config.Endpoint) (request : Request) (response : Response) :
    Response :=
  if response.isTerminal then response
  else match response.shapeEntries context.policy request with
    | .error failure => response.fail context.stamp endpoint.path failure
    | .ok response =>
      match assemble context.policy endpoint response.history with
      | .error failure => response.fail context.stamp endpoint.path failure
      | .ok (status, header, body) => response.finish status header body

end Response

/-- The run of an endpoint on a request, with its final response. -/
def Config.Gateway.handle (gateway : Gateway) (transport : Transport) (context : Context)
    (endpoint : Endpoint) (request : Request) : Run :=
  let run := gateway.run transport context endpoint request
  { run with response := run.response.write context endpoint run.request }

end Junction
