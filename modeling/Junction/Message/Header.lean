import Junction.Data.Multimap
import Junction.Json.Basic
import Junction.Change.Action
import Junction.Text.Cut

/-!
Header fields of a message: names in one spelling whatever the case they are given in, each with one or more
values.
-/

namespace Junction

/-- The letters of a name: upper case at the start and after a dash, lower case elsewhere. -/
def titled (upperNext : Bool) : List Char → List Char
  | [] => []
  | c :: rest => (if upperNext then Text.upper c else Text.lower c) ++ titled (c == '-') rest

/-- The spelling of a header name, as in `X-Request-Id`; space around it is left out. -/
def headerName (name : String) : String := String.ofList (titled true (Text.trimmed name.toList))

/-- The header fields of a message. -/
structure Header where
  fields : Multimap
deriving Inhabited

namespace Header

def contentType : String := "Content-Type"
def contentLength : String := "Content-Length"
def requestId : String := "X-Request-Id"
def complete : String := "X-Gateway-Complete"
def success : String := "X-Gateway-Success"
def cached : String := "X-Gateway-Cache"
def cachedFor : String := "X-Gateway-Cache-Ttl"

/-- The fields of one connection, never passed on. -/
def ofConnection : List String :=
  ["Connection", "Keep-Alive", "Proxy-Authenticate", "Proxy-Authorization", "Te", "Trailer",
    "Transfer-Encoding", "Upgrade"]

/-- The fields that transport decides: those of the connection, those about the body, and the host. -/
def ofTransport : List String :=
  ofConnection ++ [contentLength, contentType, "Content-Encoding", "Accept-Encoding", "Host"]

/-- No field. -/
def empty : Header := ⟨.empty⟩

instance : EmptyCollection Header := ⟨empty⟩

/-- The fields of pairs, the values of one name in their order. -/
def ofPairs (pairs : List (String × String)) : Header :=
  ⟨.ofPairs (pairs.map fun (name, value) => (headerName name, value))⟩

/-- The first value of a field. -/
def get? (header : Header) (name : String) : Option String := header.fields.get? (headerName name)

/-- The values of a field. -/
def getAll (header : Header) (name : String) : List String := header.fields.getAll (headerName name)

/-- The field is there. -/
def contains (header : Header) (name : String) : Bool := header.fields.contains (headerName name)

/-- There is no field. -/
def isEmpty (header : Header) : Bool := header.fields.isEmpty

/-- A value added to a field. -/
def add (header : Header) (name value : String) : Header := ⟨header.fields.add (headerName name) value⟩

/-- A value added to a field that is there. -/
def append (header : Header) (name value : String) : Header := ⟨header.fields.append (headerName name) value⟩

/-- A field with one value. -/
def set (header : Header) (name value : String) : Header := ⟨header.fields.set (headerName name) value⟩

/-- A field that is there, with one value. -/
def replace (header : Header) (name value : String) : Header :=
  ⟨header.fields.replace (headerName name) value⟩

/-- The header without a field. -/
def delete (header : Header) (name : String) : Header := ⟨header.fields.delete (headerName name)⟩

/-- One action on a field; without a key nothing happens. -/
def modify (header : Header) (action : Action) (key value : String) : Header :=
  if key.isEmpty then header
  else match action with
    | .add => header.add key value
    | .append => header.append key value
    | .set => header.set key value
    | .replace => header.replace key value
    | .delete => header.delete key

/-- Only the named fields; a star names all. -/
def filter (header : Header) (names : List String) : Header :=
  if names.contains "*" then header
  else ⟨header.fields.filter fun name => (names.map headerName).contains name⟩

/-- Without the fields that transport decides. -/
def withoutTransport (header : Header) : Header :=
  ⟨header.fields.filter fun name => !ofTransport.contains name⟩

/-- One field of another header joined to the fields; length and type of the content are left out. -/
def join (fields : Multimap) (field : String × Values) : Multimap :=
  if field.1 = contentLength ∨ field.1 = contentType then fields else fields.union field.1 field.2

/-- The fields, with the values of another header that they do not have yet. -/
def aggregate (header other : Header) : Header := ⟨other.fields.entries.foldl join header.fields⟩

/-- Every field with its values in one text. -/
def joined (header : Header) : List (String × String) :=
  header.fields.entries.map fun (name, values) => (name, ", ".intercalate values.toList)

/-- The number of bytes of names and values. -/
def byteSize (header : Header) : Nat :=
  header.fields.entries.foldl (fun size (name, values) =>
    values.toList.foldl (fun size value => size + value.utf8ByteSize) (size + name.utf8ByteSize)) 0

/-- The fields as an object of arrays. -/
def toJson (header : Header) : Json :=
  .object (header.fields.entries.map fun (name, values) => (name, .array (values.toList.map .text)))

end Header
end Junction
