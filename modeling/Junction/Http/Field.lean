import Junction.Text.Utf8

/-!
What HTTP allows in methods, header names and header values.
-/

namespace Junction.Http

/-- A character of a token: letters, digits and some marks of ASCII. -/
def isTokenChar (c : Char) : Bool := c.isAlphanum || "!#$%&'*+-.^_\x60|~".toList.contains c

/-- A token, as methods and header names are. -/
def isToken (text : String) : Bool := !text.isEmpty && text.toList.all isTokenChar

/-- A byte that a header value may hold. -/
def isValueByte (byte : UInt8) : Bool := (0x20 ≤ byte && byte != 0x7F) || byte == 0x09

/-- A header value that can be sent. -/
def isValue (text : String) : Bool := text.toUTF8.toList.all isValueByte

/-- A byte that stands for an ASCII character to be seen, a space or a tab. -/
def isVisible (byte : UInt8) : Bool := isValueByte byte && byte < 0x80

/-- The text of a header value, if all of it is visible ASCII. -/
def visibleText? (bytes : ByteArray) : Option String :=
  if bytes.toList.all isVisible then some (Text.ofBytes bytes) else none

end Junction.Http
