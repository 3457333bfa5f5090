import Junction.Text.Cut

/-!
Characters in XML text: five of them are written as entities, and every character can be given by its number.
-/

namespace Junction.Xml

/-- The written form of one character. -/
def escapedChar (c : Char) : List Char :=
  if c = '<' then ['&', 'l', 't', ';']
  else if c = '>' then ['&', 'g', 't', ';']
  else if c = '&' then ['&', 'a', 'm', 'p', ';']
  else if c = '\'' then ['&', 'a', 'p', 'o', 's', ';']
  else if c = '\x22' then ['&', 'q', 'u', 'o', 't', ';']
  else [c]

/-- The written form of a text. -/
def escaped (s : List Char) : List Char := s.flatMap escapedChar

/-- The character with a number, zero excepted. -/
def numbered? (code : Option Nat) : Option Char :=
  code.bind fun code => if code = 0 then none else Text.scalar? code

/-- The character that an entity names. -/
def entity? (name : List Char) : Option Char :=
  match name with
  | '#' :: 'x' :: digits => numbered? (Text.valueInBase? 16 digits)
  | '#' :: digits => numbered? (Text.valueInBase? 10 digits)
  | ['l', 't'] => some '<'
  | ['g', 't'] => some '>'
  | ['a', 'm', 'p'] => some '&'
  | ['a', 'p', 'o', 's'] => some '\''
  | ['q', 'u', 'o', 't'] => some '\x22'
  | _ => none

/-- The text that is written; `name` holds the name of an entity that has begun, last character first. None
for an entity that does not end or is not known. -/
def unescapedFrom : (name : Option (List Char)) → List Char → Option (List Char)
  | none, [] => some []
  | some _, [] => none
  | none, c :: rest =>
    if c = '&' then unescapedFrom (some []) rest else (unescapedFrom none rest).map (c :: ·)
  | some name, c :: rest =>
    if c = '&' then none
    else if c = ';' then
      (entity? name.reverse).bind fun found => (unescapedFrom none rest).map (found :: ·)
    else unescapedFrom (some (c :: name)) rest

/-- The text that is written. -/
def unescaped? (s : List Char) : Option (List Char) := unescapedFrom none s

end Junction.Xml
