import Junction.Message.Body
import Junction.Message.Header
import Junction.Message.Params
import Junction.Message.Query

/-!
The running request of one exchange, and snapshots of what each backend was sent.
-/

namespace Junction

/-- The value of a body that may be missing. -/
def bodyView (body : Option Body) : Json := (body.map (·.value)).getD .null

/-- What one backend was sent. -/
structure Snapshot where
  host : String
  path : String
  method : String
  header : Header
  query : Query
  params : Params
  body : Option Body
deriving Inhabited

namespace Snapshot

/-- A snapshot with its method in upper case. -/
def of (host path method : String) (header : Header) (query : Query) (params : Params) (body : Option Body) :
    Snapshot :=
  ⟨host, path, Text.upperAscii method, header, query, params, body⟩

/-- The start of the URL: the host without slashes at its end, after `http://` unless it names a scheme. -/
def origin (host : String) : String :=
  let host := String.ofList ((host.toList.reverse.dropWhile (· == '/')).reverse)
  if Text.occurs "://".toList host.toList then host else "http://" ++ host

/-- A path that starts with a slash, unless it is empty. -/
def rooted (path : String) : String :=
  if path.isEmpty || path.toList.head? == some '/' then path else "/" ++ path

/-- The URL of the call: host, path, and the encoded query if there is one. -/
def url (snapshot : Snapshot) : String :=
  let query := snapshot.query.encode
  origin snapshot.host ++ rooted snapshot.path ++ (if query.isEmpty then "" else "?" ++ query)

/-- The snapshot as placeholders see it. -/
def view (snapshot : Snapshot) : Json :=
  .object [("host", .text snapshot.host), ("path", .text snapshot.path), ("method", .text snapshot.method),
    ("header", snapshot.header.toJson), ("params", snapshot.params.toJson), ("query", snapshot.query.toJson),
    ("body", bodyView snapshot.body)]

end Snapshot

/-- The request of an exchange. Its path is the template of the endpoint; its history holds what every backend
was sent so far. -/
structure Request where
  method : String := "GET"
  url : String := "/"
  path : String := "/"
  params : Params := ∅
  header : Header := ∅
  query : Query := ∅
  body : Option Body := none
  history : List Snapshot := []
deriving Inhabited

namespace Request

/-- A request with its method in upper case. -/
def of (method url path : String) : Request := { method := Text.upperAscii method, url := url, path := path }

/-- The request with one more snapshot. -/
def record (request : Request) (snapshot : Snapshot) : Request :=
  { request with history := request.history ++ [snapshot] }

/-- The request as placeholders see it. -/
def view (request : Request) : Json :=
  .object [("header", request.header.toJson), ("params", request.params.toJson),
    ("query", request.query.toJson), ("body", bodyView request.body),
    ("history", .array (request.history.map (·.view)))]

end Request
end Junction
