import Junction.Json.Basic
import Junction.Text.Cut

/-!
Compact JSON text: no space between tokens, fields in their order.
-/

namespace Junction

/-- Doubles in JSON carry a plus sign on a positive exponent. -/
def Number.jsonStyle : Double.Style := ⟨"+"⟩

/-- The text of a number. -/
def Number.render (style : Double.Style) : Number → String
  | .int value => toString value
  | .double value => value.render style

namespace Json

/-- One character inside a quoted text: quotes, backslashes and control characters are escaped. -/
def escape (c : Char) : List Char :=
  if c = '\x22' then ['\\', '\x22']
  else if c = '\\' then ['\\', '\\']
  else if c = '\x08' then ['\\', 'b']
  else if c = '\t' then ['\\', 't']
  else if c = '\n' then ['\\', 'n']
  else if c = '\x0c' then ['\\', 'f']
  else if c = '\r' then ['\\', 'r']
  else if c.toNat < 0x20 then '\\' :: 'u' :: Text.hexDigits 4 c.toNat
  else [c]

/-- A quoted text. -/
def quoted (s : String) : List Char := '\x22' :: (s.toList.flatMap escape ++ ['\x22'])

/-- Texts one after another, with commas between them. -/
def commaSeparated : List (List Char) → List Char
  | [] => []
  | [one] => one
  | one :: more => one ++ ',' :: commaSeparated more

mutual

/-- The characters of a value. -/
def write : Json → List Char
  | .null => "null".toList
  | .bool true => "true".toList
  | .bool false => "false".toList
  | .number value => (value.render Number.jsonStyle).toList
  | .text value => quoted value
  | .array items => '[' :: (commaSeparated (writeItems items) ++ [']'])
  | .object fields => '\x7b' :: (commaSeparated (writeFields fields) ++ ['\x7d'])

/-- The characters of each item. -/
def writeItems : List Json → List (List Char)
  | [] => []
  | item :: rest => write item :: writeItems rest

/-- The characters of each field: name, colon, value. -/
def writeFields : List (String × Json) → List (List Char)
  | [] => []
  | (name, value) :: rest => (quoted name ++ ':' :: write value) :: writeFields rest

end

/-- The text of a value. -/
def render (value : Json) : String := String.ofList value.write

/-- A text value as it is, any other value as JSON text. -/
def plainText : Json → String
  | .text value => value
  | other => other.render

end Json
end Junction
