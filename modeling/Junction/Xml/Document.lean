import Junction.Json.Merge
import Junction.Json.Printer
import Junction.Xml.Markup

/-!
XML documents as JSON values and back. An attribute is a field whose name begins with a dash, text beside
other content is the field `#text`, and elements of one name stand in an array.
-/

namespace Junction.Xml

/-- The name of the field that holds text beside other content. -/
def textName : String := "#text"

/-- The name of the element around a value that is no single element. -/
def rootName : String := "root"

/-- The name of the elements of an array without a name of its own. -/
def itemName : String := "item"

/-! ## Reading -/

/-- Why bytes are no XML document. -/
inductive ReadError where
  | malformed
  | unexpectedClosing
  | unclosed
deriving DecidableEq, Repr, Inhabited

/-- An element that is still open: its name, its fields, and the text directly inside it. -/
structure OpenElement where
  name : String
  fields : List (String × Json)
  text : List Char

/-- An element without content. -/
def OpenElement.start (name : String) (attributes : List (String × String)) : OpenElement :=
  ⟨name, Keyed.ofList (attributes.map fun (name, value) => ("-" ++ name, .text value)), []⟩

/-- The value of an element: null, its text, or its fields with the text as the last one. -/
def OpenElement.value (element : OpenElement) : Json :=
  let text := Text.trimmed element.text
  if element.fields.isEmpty then
    if text.isEmpty then .null else .text (String.ofList text)
  else if text.isEmpty then .object element.fields
  else .object (Keyed.put textName (.text (String.ofList text)) element.fields)

/-- A value under a name; the second one of a name makes an array of both, later ones join it. -/
def insertChild (fields : List (String × Json)) (name : String) (value : Json) : List (String × Json) :=
  match Keyed.get? name fields with
  | some (.array items) => Keyed.put name (.array (items ++ [value])) fields
  | some first => Keyed.put name (.array [first, value]) fields
  | none => Keyed.put name value fields

/-- The element with one more child. -/
def OpenElement.withChild (element : OpenElement) (name : String) (value : Json) : OpenElement :=
  { element with fields := insertChild element.fields name value }

/-- The value of markup inside open elements, the innermost first; `document` stands around them all. -/
def valueOf (document : OpenElement) : (inner : List OpenElement) → List Markup → Except ReadError Json
  | [], [] => .ok document.value
  | _ :: _, [] => .error .unclosed
  | inner, .opening name attributes :: rest => valueOf document (.start name attributes :: inner) rest
  | [], .closed name attributes :: rest =>
    valueOf (document.withChild name (OpenElement.start name attributes).value) [] rest
  | element :: inner, .closed name attributes :: rest =>
    valueOf document (element.withChild name (OpenElement.start name attributes).value :: inner) rest
  | [], .text value :: rest => valueOf { document with text := document.text ++ value.toList } [] rest
  | element :: inner, .text value :: rest =>
    valueOf document ({ element with text := element.text ++ value.toList } :: inner) rest
  | [], .closing _ :: _ => .error .unexpectedClosing
  | [element], .closing _ :: rest => valueOf (document.withChild element.name element.value) [] rest
  | element :: parent :: inner, .closing _ :: rest =>
    valueOf document (parent.withChild element.name element.value :: inner) rest

/-- The JSON value of an XML document. -/
def decode (bytes : ByteArray) : Except ReadError Json :=
  match Markup.ofBytes? bytes with
  | some markup => valueOf (.start "" []) [] markup
  | none => .error .malformed

/-! ## Writing -/

/-- A character of element and attribute names. -/
def isNameChar (c : Char) : Bool := Text.isAlphanumeric c || c == '_' || c == '-' || c == '.'

/-- A character that a name may begin with. -/
def isNameStart (c : Char) : Bool := Text.isAlphabetic c || c == '_'

/-- A key as a name: an underscore for every other character, and before a first one that begins no name. -/
def nameOf (key : String) : List Char :=
  let name := key.toList.map fun c => if isNameChar c then c else '_'
  if (name.head?.map isNameStart).getD false then name else '_' :: name

/-- The key of an attribute begins with a dash. -/
def isAttribute (key : String) : Bool := key.toList.head? == some '-'

/-- The value of an attribute or of a text. -/
def writeText (value : Json) : List Char := escaped value.plainText.toList

/-- The attributes among the fields, each with a space before it. -/
def writeAttributes (fields : List (String × Json)) : List Char :=
  (fields.filter fun field => isAttribute field.1).flatMap fun (key, value) =>
    ' ' :: (nameOf (String.ofList (key.toList.drop 1)) ++ "=\"".toList ++ writeText value ++ ['\x22'])

/-- An opening tag. -/
def openingTag (name attributes : List Char) : List Char := '<' :: (name ++ attributes ++ ['>'])

/-- A closing tag. -/
def closingTag (name : List Char) : List Char := '<' :: '/' :: (name ++ ['>'])

/-- An element around written content. -/
def wrapped (name attributes content : List Char) : List Char :=
  openingTag name attributes ++ content ++ closingTag name

mutual

/-- The element of a value. -/
def writeElement (key : String) : Json → List Char
  | .null => '<' :: (nameOf key ++ ['/', '>'])
  | .object fields => wrapped (nameOf key) (writeAttributes fields) (writeFields fields)
  | .array items => wrapped (nameOf key) [] (writeItems itemName items)
  | scalar => wrapped (nameOf key) [] (writeText scalar)

/-- The elements of items, all of one name. -/
def writeItems (key : String) : List Json → List Char
  | [] => []
  | item :: rest => writeElement key item ++ writeItems key rest

/-- The content of an object: a text for `#text`, several elements for an array, attributes left out. -/
def writeFields : List (String × Json) → List Char
  | [] => []
  | (key, value) :: rest =>
    let written :=
      if isAttribute key then []
      else if key = textName then writeText value
      else match value with
        | .array items => writeItems key items
        | other => writeElement key other
    written ++ writeFields rest

end

/-- The declaration at the start of a document. -/
def declaration : List Char := "<?xml version=\"1.0\" encoding=\"UTF-8\"?>".toList

/-- The document of a value: the element of its only field, or an element of its own around it. -/
def writeDocument (value : Json) : List Char :=
  match value with
  | .object [(key, inner)] =>
    if isAttribute key || key == textName then writeElement rootName value else writeElement key inner
  | other => writeElement rootName other

/-- The XML text of a value, with or without a declaration. -/
def encode (declared : Bool) (value : Json) : String :=
  String.ofList ((if declared then declaration else []) ++ writeDocument value)

/-- The bytes begin, after ASCII white space, with a declaration. -/
def isDeclared (bytes : ByteArray) : Bool :=
  "<?xml".toUTF8.toList.isPrefixOf (bytes.toList.dropWhile fun byte =>
    byte == 0x20 || byte == 0x09 || byte == 0x0A || byte == 0x0C || byte == 0x0D)

end Junction.Xml
