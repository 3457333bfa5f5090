import Junction.Config.Modifier

/-!
Backends: where a call goes, what of the request it carries, and how its response is shaped.
-/

namespace Junction.Config

/-- When the response of a backend is shaped: as it arrives, or when the final response is written. -/
inductive Moment where
  | early
  | late
deriving DecidableEq, Repr, Inhabited

/-- Every moment with its name. -/
def Moment.names : List (String × Moment) := [("EARLY", .early), ("LATE", .late)]

/-- The moment of a name. -/
def Moment.ofName? (name : String) : Option Moment := (names.find? fun entry => entry.1 == name).map (·.2)

/-- The name of a moment. -/
def Moment.name : Moment → String
  | early => "EARLY"
  | late => "LATE"

/-- How the response of a backend is shaped. -/
structure Shaping where
  /-- The response is left out of the final one when there are others. -/
  omitted : Bool := false
  omitsHeader : Bool := false
  omitsBody : Bool := false
  /-- The name under which the body stands among others. -/
  group : Option String := none
  apply : Moment := .early
  mapper : Json.Renaming := ⟨[]⟩
  projection : Json.Projection := ⟨[]⟩
deriving DecidableEq, Repr, Inhabited

namespace Shaping

/-- The fields of a shaping. -/
def fields : List (Reader.Field Shaping) :=
  [.field "omit" Reader.flag fun found shaping => { shaping with omitted := found },
    .field "omit_header" Reader.flag fun found shaping => { shaping with omitsHeader := found },
    .field "omit_body" Reader.flag fun found shaping => { shaping with omitsBody := found },
    .field "group" (Reader.optional Reader.text) fun found shaping => { shaping with group := found },
    .field "apply" (Reader.variant Moment.ofName?) fun found shaping => { shaping with apply := found },
    .field "mapper" Reader.names fun found shaping => { shaping with mapper := found },
    .field "projection" Reader.projection fun found shaping => { shaping with projection := found }]

/-- A shaping as an object. -/
def toJson (shaping : Shaping) : Json :=
  .object [("omit", .bool shaping.omitted), ("omit_header", .bool shaping.omitsHeader),
    ("omit_body", .bool shaping.omitsBody), ("group", Json.textOrNull shaping.group),
    ("apply", .text shaping.apply.name), ("mapper", shaping.mapper.toJson),
    ("projection", shaping.projection.toJson)]

end Shaping

/-- A backend. -/
structure Backend where
  name : String := ""
  hosts : List String := []
  /-- The template of the path, filled with the parameters of the request. -/
  path : String := "/"
  /-- The method; without one that of the request is used. -/
  method : Option String := none
  forwardHeaders : List String := ["*"]
  forwardQueries : List String := ["*"]
  modifiers : Modifiers := {}
  response : Shaping := {}
deriving DecidableEq, Repr, Inhabited

namespace Backend

/-- A list of texts. -/
def texts : Reader (List String) := Reader.list Reader.text

/-- The fields of a backend. -/
def fields : List (Reader.Field Backend) :=
  [.field "name" Reader.text fun found backend => { backend with name := found },
    .field "hosts" texts fun found backend => { backend with hosts := found },
    .field "path" Reader.text fun found backend => { backend with path := found },
    .field "method" (Reader.optional Reader.text) fun found backend => { backend with method := found },
    .field "forward_headers" texts fun found backend => { backend with forwardHeaders := found },
    .field "forward_queries" texts fun found backend => { backend with forwardQueries := found },
    .field "modifiers" (Reader.record Modifiers.fields {}) fun found backend => { backend with modifiers := found },
    .field "response" (Reader.record Shaping.fields {}) fun found backend => { backend with response := found }]

/-- A backend; every field may be left out. -/
def read : Reader Backend := Reader.record fields {}

/-- Texts as an array. -/
def textsJson (texts : List String) : Json := .array (texts.map .text)

/-- A backend as an object. -/
def toJson (backend : Backend) : Json :=
  .object [("name", .text backend.name), ("hosts", textsJson backend.hosts), ("path", .text backend.path),
    ("method", Json.textOrNull backend.method), ("forward_headers", textsJson backend.forwardHeaders),
    ("forward_queries", textsJson backend.forwardQueries), ("modifiers", backend.modifiers.toJson),
    ("response", backend.response.toJson)]

/-- The name of a backend in messages; its path when it has no name. -/
def label (backend : Backend) : String := if backend.name.isEmpty then backend.path else backend.name

end Backend
end Junction.Config
