import Junction.Exchange.Response
import Junction.Http.Field

/-!
Responses as they go out: one value for each header name, and the media type of the body.
-/

namespace Junction.Http

/-- A response as it goes out; the names are in lower case. -/
structure Rendered where
  status : Nat
  fields : Sorted String
  bytes : ByteArray
deriving Inhabited

namespace Rendered

/-- A status that can be sent; any other becomes an internal error. -/
def statusOf (status : Nat) : Nat := if 100 ≤ status ∧ status ≤ 999 then status else 500

/-- One field put to the others, unless it describes the content or cannot be sent. -/
def addField (fields : Sorted String) (field : String × String) : Sorted String :=
  let (name, value) := field
  if name = Header.contentLength ∨ name = Header.contentType then fields
  else if isToken name && isValue value then fields.insert (Text.lowerAscii name) value else fields

/-- The media type of a body; that of its format when its own cannot be sent. -/
def mediaType (body : Body) : String :=
  if isValue body.mediaType then body.mediaType else body.format.mediaType

/-- A response as it goes out. -/
def ofResponse (response : Response) : Rendered :=
  let fields := response.header.joined.foldl addField ∅
  { status := statusOf response.status
    fields := match response.body with
      | some body => fields.insert (Text.lowerAscii Header.contentType) (mediaType body)
      | none => fields
    bytes := (response.body.map (·.bytes)).getD .empty }

/-- The response with the id of its request, unless it has one of its own. -/
def identified (rendered : Rendered) (id : String) : Rendered :=
  let name := Text.lowerAscii Header.requestId
  if rendered.fields.contains name then rendered
  else { rendered with fields := rendered.fields.insert name id }

end Rendered
end Junction.Http
