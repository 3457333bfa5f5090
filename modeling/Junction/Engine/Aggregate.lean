import Junction.Exchange.Response
import Junction.Json.Merge

/-!
Several bodies in one document: joined into one object, or listed.
-/

namespace Junction.Aggregate

/-- A field of the body at a position; on a taken name the position is put after it. -/
def addField (position : Nat) (fields : List (String × Json)) (field : String × Json) :
    List (String × Json) :=
  let name := if Keyed.contains field.1 fields then field.1 ++ toString position else field.1
  Json.addField fields (name, field.2)

/-- A body that stands under a group; bodies of one group are merged. -/
def addToGroup (group : String) (fields : List (String × Json)) (value : Json) : List (String × Json) :=
  match Keyed.get? group fields with
  | some present => Keyed.put group (present.merge value) fields
  | none => Keyed.put group value fields

/-- A body without a group: the fields of an object, any other value under the name of its position. -/
def addValue (position : Nat) (fields : List (String × Json)) (value : Json) : List (String × Json) :=
  match value with
  | .object more => more.foldl (addField position) fields
  | other => Keyed.put ("response" ++ toString position) other fields

/-- An entry joined to the fields; one without a body adds nothing. -/
def addEntry (fields : List (String × Json)) (position : Nat) (entry : Entry) : List (String × Json) :=
  match entry.body, entry.group? with
  | none, _ => fields
  | some body, some group => addToGroup group fields body.value
  | some body, none => addValue position fields body.value

/-- The fields of entries from a position on, joined to those before. -/
def fieldsFrom : (position : Nat) → (fields : List (String × Json)) → List Entry → List (String × Json)
  | _, fields, [] => fields
  | position, fields, entry :: rest => fieldsFrom (position + 1) (addEntry fields position entry) rest

/-- The bodies of entries joined into one object. -/
def object (entries : List Entry) : Json := .object (fieldsFrom 0 [] entries)

/-- A body as an item, under its group if it has one; null for no body. -/
def item (entry : Entry) : Json :=
  match entry.group? with
  | some group => (bodyView entry.body).under group
  | none => bodyView entry.body

/-- The bodies of entries in a list. -/
def list (entries : List Entry) : Json := .array (entries.map item)

end Junction.Aggregate
