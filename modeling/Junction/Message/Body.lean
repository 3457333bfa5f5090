import Junction.Json.KeyCase
import Junction.Json.OmitEmpty
import Junction.Json.Projection
import Junction.Json.Renaming
import Junction.Message.Format
import Junction.Change.Document
import Junction.Xml.Document
import Junction.Yaml.Document
import Junction.Yaml.Printer

/-!
Message bodies: bytes in a format. JSON, XML and YAML bodies are read into a JSON value, changed there and
written again; text bodies know only literal edits.
-/

namespace Junction

/-- Why a body cannot be read or changed. -/
inductive BodyError where
  /-- A path that cannot be written, as it was given. -/
  | path (given : String) (cause : Json.PathError)
  | malformed (format : Format)
  | unclosedElement
  | unexpectedClosing

namespace BodyError

/-- The wording of an error. -/
def message : BodyError → String
  | .path given cause => "JSON path error: " ++ cause.message given
  | .malformed format => "failed to decode " ++ format.name ++ " body: malformed document"
  | .unclosedElement => "failed to decode XML body: unclosed element"
  | .unexpectedClosing => "failed to decode XML body: unexpected closing tag"

end BodyError

/-- A message body. -/
structure Body where
  format : Format
  bytes : ByteArray
  /-- The media type that a text body came with. -/
  declared : Option String
deriving Inhabited

namespace Body

/-- A body in a format. -/
def ofBytes (format : Format) (bytes : ByteArray) : Body := ⟨format, bytes, none⟩

/-- A body with the media type it came with, which only a text body keeps. -/
def ofMediaType (mediaType : String) (bytes : ByteArray) : Body :=
  let format := Format.ofMediaType mediaType
  ⟨format, bytes, if format = .text ∧ !Text.isBlank mediaType then some (Text.trim mediaType) else none⟩

/-- A text body. -/
def ofText (text : String) : Body := ofBytes .text text.toUTF8

/-- A JSON body. -/
def ofJson (value : Json) : Body := ofBytes .json value.render.toUTF8

/-- The media type to send with a body. -/
def mediaType (body : Body) : String := body.declared.getD body.format.mediaType

/-- The text of a body. -/
def text (body : Body) : String := Text.ofBytes body.bytes

/-- The number of bytes. -/
def size (body : Body) : Nat := body.bytes.size

/-- There are no bytes. -/
def isEmpty (body : Body) : Bool := body.bytes.size == 0

/-- The same body with other bytes. -/
def withText (body : Body) (text : String) : Body := { body with bytes := text.toUTF8 }

/-! ## Reading and writing -/

/-- Bytes of ASCII white space only. -/
def isBlank (bytes : ByteArray) : Bool :=
  bytes.toList.all fun byte => byte == 0x20 || byte == 0x09 || byte == 0x0A || byte == 0x0C || byte == 0x0D

/-- The value of a JSON text. -/
def decodeJson? (bytes : ByteArray) : Option Json := (String.fromUTF8? bytes).bind Json.read?

/-- The value of a body's bytes; blank JSON and YAML is null. -/
def decodeAs (format : Format) (bytes : ByteArray) : Except BodyError Json :=
  match format with
  | .text => .ok (.text (Text.ofBytes bytes))
  | .json =>
    if isBlank bytes then .ok .null else (decodeJson? bytes).elim (.error (.malformed .json)) .ok
  | .yaml =>
    if isBlank bytes then .ok .null else (Yaml.decode? bytes).elim (.error (.malformed .yaml)) .ok
  | .xml =>
    match Xml.decode bytes with
    | .ok value => .ok value
    | .error .malformed => .error (.malformed .xml)
    | .error .unclosed => .error .unclosedElement
    | .error .unexpectedClosing => .error .unexpectedClosing

/-- The value of a body. -/
def decode (body : Body) : Except BodyError Json := decodeAs body.format body.bytes

/-- The value of a body, or its text when it cannot be read. -/
def value (body : Body) : Json :=
  match body.decode with
  | .ok value => value
  | .error _ => .text body.text

/-- The text of a value in a text body. -/
def plain : Json → String
  | .null => ""
  | other => other.plainText

/-- The text of a value in a format. -/
def encodeAs (format : Format) (value : Json) : String :=
  match format with
  | .text => plain value
  | .json => value.render
  | .xml => Xml.encode true value
  | .yaml => Yaml.encode value

/-- The body of a value in a format. -/
def ofValue (format : Format) (value : Json) : Body := ofBytes format (encodeAs format value).toUTF8

/-- The text of a value that takes the place of a body: an XML body keeps its declaration or goes without. -/
def encodeLike (body : Body) (value : Json) : String :=
  match body.format with
  | .xml => Xml.encode (Xml.isDeclared body.bytes) value
  | format => encodeAs format value

/-! ## Changes -/

/-- A change of the value of a body; a text body stays as it is. -/
def reshape (body : Body) (change : Json → Json) : Except BodyError Body :=
  match body.format with
  | .text => .ok body
  | _ => body.decode.map fun value => body.withText (body.encodeLike (change value))

/-- One action on a text: adding puts more text after it, a key is replaced or removed wherever it occurs. -/
def modifyText (text : String) (action : Action) (key argument : String) : String :=
  match action with
  | .add | .append => text ++ argument
  | .set => argument
  | .replace => Text.replaceAll key argument text
  | .delete => Text.replaceAll key "" text

/-- One action on the value of a body. -/
def modifyTree (body : Body) (action : Action) (key argument : String) : Except BodyError Body :=
  body.decode.bind fun value =>
    match Change.modify value action key (Change.valueOf argument) with
    | .ok changed => .ok (body.withText (body.encodeLike changed))
    | .error stuck => .error (.path key stuck.error)

/-- One action on a document that is replaced literally: replacing acts on the text, deleting does nothing. -/
def modifyMarked (body : Body) (action : Action) (key argument : String) : Except BodyError Body :=
  match action with
  | .replace => .ok (if key.isEmpty then body else body.withText (Text.replaceAll key argument body.text))
  | .delete => .ok body
  | _ => modifyTree body action key argument

/-- One action on a body. -/
def modify (body : Body) (action : Action) (key argument : String) : Except BodyError Body :=
  match body.format with
  | .text => .ok (body.withText (modifyText body.text action key argument))
  | .json => modifyTree body action key argument
  | .xml | .yaml => modifyMarked body action key argument

/-- One action on a body that may be missing: adding and setting make one, JSON when there is a key. -/
def modify? (body : Option Body) (action : Action) (key argument : String) :
    Except BodyError (Option Body) :=
  match body, action with
  | some body, action => (body.modify action key argument).map some
  | none, .add | none, .set =>
    if key.isEmpty then .ok (some (ofText argument))
    else ((ofJson (.object [])).modify action key argument).map some
  | none, _ => .ok none

/-- The parts of a body that a projection keeps. -/
def project (body : Body) (projection : Json.Projection) : Except BodyError Body :=
  if projection.isEmpty then .ok body else body.reshape projection.apply

/-- A body with its fields renamed. -/
def rename (body : Body) (names : Json.Renaming) : Except BodyError Body :=
  if names.isEmpty then .ok body else body.reshape names.apply

/-- A body with its keys in one spelling. -/
def withKeyCase (body : Body) (keyCase : Json.KeyCase) : Except BodyError Body := body.reshape keyCase.apply

/-- A body without its empty values. -/
def omitEmpty (body : Body) : Except BodyError Body := body.reshape Json.omitEmpty

/-- A body in another format. -/
def convert (body : Body) (format : Format) : Except BodyError Body :=
  if format = body.format then .ok body else body.decode.map (ofValue format)

end Body
end Junction
