import Junction.Text.Cut

/-!
The formats of message bodies, and the media types that announce them.
-/

namespace Junction

/-- A format of message bodies. -/
inductive Format where
  | text
  | json
  | xml
  | yaml
deriving DecidableEq, Repr, Inhabited

namespace Format

/-- Every format with its name. -/
def names : List (String × Format) := [("TEXT", text), ("JSON", json), ("XML", xml), ("YAML", yaml)]

/-- The format of a name. -/
def ofName? (name : String) : Option Format := (names.find? fun entry => entry.1 == name).map (·.2)

/-- The name of a format. -/
def name : Format → String
  | text => "TEXT"
  | json => "JSON"
  | xml => "XML"
  | yaml => "YAML"

/-- The media type of a format. -/
def mediaType : Format → String
  | text => "text/plain; charset=utf-8"
  | json => "application/json"
  | xml => "application/xml"
  | yaml => "application/x-yaml"

/-- A media type without its parameters, in lower case. -/
def essence (mediaType : String) : List Char :=
  (Text.trimmed (mediaType.toList.takeWhile (· != ';'))).map Char.toLower

/-- The format that a media type announces; text when it announces none of the others. -/
def ofMediaType (mediaType : String) : Format :=
  let found := essence mediaType
  if found = "application/json".toList || Text.ends "+json".toList found then json
  else if found = "application/xml".toList || found = "text/xml".toList || Text.ends "+xml".toList found then
    xml
  else if Text.occurs "yaml".toList found then yaml
  else text

end Format
end Junction
