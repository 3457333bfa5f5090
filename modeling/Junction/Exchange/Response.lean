import Junction.Config.Backend
import Junction.Exchange.Failure
import Junction.Exchange.Request

/-!
The responses of backends, and the response that an exchange builds from them. A response is over once it is
aborted or written; a written response never changes again.
-/

namespace Junction

/-- The response of one backend. -/
structure Entry where
  backend : Config.Backend
  status : Nat
  header : Header
  body : Option Body
  /-- The rules of the backend have been applied. -/
  shaped : Bool := false
deriving Inhabited

namespace Entry

/-- The name under which the body stands among others. -/
def group? (entry : Entry) : Option String := entry.backend.response.group.filter fun name => !name.isEmpty

/-- The entry is left out when there are others. -/
def omitted (entry : Entry) : Bool := entry.backend.response.omitted

/-- The status is no error. -/
def ok (entry : Entry) : Bool := entry.status < 400

/-- The entry as placeholders see it. -/
def view (entry : Entry) : Json :=
  .object [("statusCode", Json.ofNat entry.status), ("header", entry.header.toJson),
    ("body", bodyView entry.body)]

end Entry

/-- The response of an exchange; at first it has no content. -/
structure Response where
  status : Nat := 204
  header : Header := ∅
  body : Option Body := none
  aborted : Bool := false
  written : Bool := false
  history : List Entry := []
  /-- The failure that aborted the run. -/
  failure? : Option Failure := none
deriving Inhabited

namespace Response

/-- No backend may run after this response. -/
def isTerminal (response : Response) : Bool := response.aborted || response.written

/-- One more entry. -/
def append (response : Response) (entry : Entry) : Response :=
  if response.written then response else { response with history := response.history ++ [entry] }

/-- The entry that ends the run becomes the response. -/
def abortWith (response : Response) (entry : Entry) : Response :=
  if response.written then response
  else { response with
    status := entry.status, header := Header.empty.aggregate entry.header, body := entry.body, aborted := true }

/-- The response to a failure at an endpoint. -/
def fail (response : Response) (stamp : Failure.Stamp) (endpoint : String) (failure : Failure) : Response :=
  if response.written then response
  else { response with
    status := failure.kind.status, header := ∅, body := some (failure.body stamp endpoint), aborted := true,
    failure? := some failure }

/-- The final response. -/
def finish (response : Response) (status : Nat) (header : Header) (body : Option Body) : Response :=
  if response.written then response
  else { response with status := status, header := header, body := body, written := true }

/-- Other entries in place of the old ones; there are never fewer. -/
def withHistory (response : Response) (history : List Entry) : Response :=
  if response.written || history.length < response.history.length then response
  else { response with history := history }

/-- A response that is already written. -/
def ofWritten (status : Nat) (header : Header) (body : Option Body) : Response :=
  { status := status, header := header, body := body, written := true }

/-- The response as placeholders see it. -/
def view (response : Response) : Json :=
  .object [("statusCode", Json.ofNat response.status), ("header", response.header.toJson),
    ("body", bodyView response.body), ("history", .array (response.history.map (·.view)))]

end Response
end Junction
