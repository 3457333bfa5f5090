import Junction.Json.Basic

/-!
Removing what is empty from a value, from the leaves to the root.
-/

namespace Junction.Json

/-- Null, the empty text, the empty array or the empty object. -/
def isEmptyValue : Json → Bool
  | .null => true
  | .text value => value.isEmpty
  | .array items => items.isEmpty
  | .object fields => fields.isEmpty
  | _ => false

mutual

/-- The value without empty values below its root, those that become empty included. -/
def omitEmpty : Json → Json
  | .array items => .array (omitEmptyItems items)
  | .object fields => .object (omitEmptyFields fields)
  | other => other

/-- The items that are not empty in the end. -/
def omitEmptyItems : List Json → List Json
  | [] => []
  | item :: rest =>
    let kept := omitEmpty item
    if kept.isEmptyValue then omitEmptyItems rest else kept :: omitEmptyItems rest

/-- The fields whose values are not empty in the end. -/
def omitEmptyFields : List (String × Json) → List (String × Json)
  | [] => []
  | (name, value) :: rest =>
    let kept := omitEmpty value
    if kept.isEmptyValue then omitEmptyFields rest else (name, kept) :: omitEmptyFields rest

end

end Junction.Json
