import Junction.Config.Endpoint
import Junction.Engine.Call
import Junction.Http.Field
import Junction.Http.Target

/-!
Requests as they come in, and the running request that an endpoint makes of one.
-/

namespace Junction.Http

/-- A request as it comes in. -/
structure Inbound where
  method : String
  target : Target
  fields : List (String × ByteArray)
  bytes : ByteArray
deriving Inhabited

namespace Inbound

/-- The header of the fields whose values are visible text. -/
def header (inbound : Inbound) : Header :=
  .ofPairs (inbound.fields.filterMap fun (name, value) => (visibleText? value).map (name, ·))

/-- The first value of a field, whatever the case of its name. -/
def first? (inbound : Inbound) (name : String) : Option ByteArray :=
  (inbound.fields.find? fun field => Text.sameIgnoringCase field.1 name).map (·.2)

/-- The request with an id, its own if it has one. -/
def identified (inbound : Inbound) (fresh : String) : Inbound :=
  match inbound.first? Header.requestId with
  | some _ => inbound
  | none => { inbound with fields := inbound.fields ++ [(Header.requestId, fresh.toUTF8)] }

/-- The running request of an endpoint, with the parameters of its template. -/
def request (inbound : Inbound) (endpoint : Config.Endpoint) (params : Params) : Request :=
  { Request.of inbound.method inbound.target.url endpoint.path with
    params := params
    header := inbound.header
    query := .ofText inbound.target.query
    body := inbound.header.bodyOf inbound.bytes }

end Inbound

/-- The id of a request: the one it comes with, else a fresh one. -/
def requestId (header : Header) (fresh : String) : String := (header.get? Header.requestId).getD fresh

end Junction.Http
