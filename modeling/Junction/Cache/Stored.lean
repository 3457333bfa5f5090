import Junction.Config.Source
import Junction.Exchange.Response

/-!
The stored form of a written response: a JSON text.
-/

namespace Junction.Cache

/-- What is kept of a response. -/
structure Stored where
  status : Nat
  header : List (String × List String)
  format : Option Format
  mediaType : Option String
  text : Option String
deriving DecidableEq, Repr, Inhabited

namespace Stored

/-- What is kept of a response; whether it came from the cache is not. -/
def ofResponse (response : Response) : Stored :=
  let header := (response.header.delete Header.cached).delete Header.cachedFor
  { status := response.status
    header := header.fields.entries.map fun (name, values) => (name, values.toList)
    format := response.body.map (·.format)
    mediaType := response.body.map (·.mediaType)
    text := response.body.map (·.text) }

/-- The stored form as an object. -/
def toJson (stored : Stored) : Json :=
  .object [("status_code", Json.ofNat stored.status),
    ("header", .array (stored.header.map fun (name, values) =>
      .array [.text name, .array (values.map .text)])),
    ("content_type", Json.textOrNull (stored.format.map (·.name))),
    ("mime", Json.textOrNull stored.mediaType), ("body", Json.textOrNull stored.text)]

/-- The text of the stored form. -/
def encode (stored : Stored) : String := stored.toJson.render

/-- A stored form of which not all parts may be known yet. -/
structure Draft where
  status : Option Nat := none
  header : Option (List (String × List String)) := none
  format : Option Format := none
  mediaType : Option String := none
  text : Option String := none

open Config (Reader)

/-- A name and its values, in a list. -/
def field : Reader (String × List String) := fun setting =>
  match setting.items? with
  | some [name, values] =>
    (Reader.text name).bind fun name => (Reader.list Reader.text values).map fun values => (name, values)
  | _ => .error .shape

/-- The fields of the stored form. -/
def fields : List (Reader.Field Draft) :=
  [.field "status_code" Reader.status fun found draft => { draft with status := some found },
    .field "header" (Reader.list field) fun found draft => { draft with header := some found },
    .field "content_type" (Reader.optional (Reader.variant Format.ofName?))
      fun found draft => { draft with format := found },
    .field "mime" (Reader.optional Reader.text) fun found draft => { draft with mediaType := found },
    .field "body" (Reader.optional Reader.text) fun found draft => { draft with text := found }]

/-- A record given as a list has all its items. -/
def isWhole (setting : Config.Setting) : Bool :=
  (setting.items?.map fun items => items.length == fields.length).getD true

/-- The stored form of a text; status and header must be given. -/
def decode? (text : String) : Option Stored :=
  match (Config.Setting.ofText? .json text).filter isWhole with
  | none => none
  | some setting =>
    match Reader.record fields {} setting with
    | .ok ⟨some status, some header, format, mediaType, text⟩ => some ⟨status, header, format, mediaType, text⟩
    | _ => none

/-- The body that is kept; a text body has its media type again. -/
def body? (stored : Stored) : Option Body :=
  stored.text.map fun text =>
    match stored.mediaType, stored.format.getD .text with
    | some mediaType, .text => .ofMediaType mediaType text.toUTF8
    | _, format => .ofBytes format text.toUTF8

/-- The response again, marked as kept for so many milliseconds more. -/
def response (stored : Stored) (remainingMs : Nat) : Response :=
  let pairs := stored.header.flatMap fun (name, values) => values.map (name, ·)
  .ofWritten stored.status
    (((Header.ofPairs pairs).set Header.cached "true").set Header.cachedFor (toString (remainingMs / 1000)))
    stored.body?

end Stored
end Junction.Cache
