import Junction.Json.Basic

/-!
Combining two values into one without losing either.
-/

namespace Junction.Json

/-- The items of an array; any other value as the only item. -/
def itemsOf : Json → List Json
  | .array items => items
  | other => [other]

/-- The items of both values in one array. -/
def concat (first second : Json) : Json := .array (itemsOf first ++ itemsOf second)

/-- A field added to others; on a taken name both values stay, in one array. -/
def addField (fields : List (String × Json)) (field : String × Json) : List (String × Json) :=
  match Keyed.get? field.1 fields with
  | some present => Keyed.put field.1 (concat present field.2) fields
  | none => Keyed.put field.1 field.2 fields

/-- Two objects joined field by field; null gives way; other values stand in one array. -/
def merge (base incoming : Json) : Json :=
  match base, incoming with
  | .object fields, .object more => .object (more.foldl addField fields)
  | .null, incoming => incoming
  | base, .null => base
  | base, incoming => concat base incoming

/-- A value as the only field of an object. -/
def under (name : String) (value : Json) : Json := .object [(name, value)]

end Junction.Json
