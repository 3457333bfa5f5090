import Junction.Json.Edit
import Junction.Json.Merge
import Junction.Json.Written
import Junction.Change.Action

/-!
The five actions on a JSON value, at the place that a key addresses.
-/

namespace Junction.Change

open Json (Stuck)

/-- The value of a modifier: JSON when its text is JSON, else the text itself. -/
def valueOf (text : String) : Json := (Json.read? text).getD (.text text)

/-- Neither null nor the empty text. -/
def isPresent : Json → Bool
  | .null => false
  | .text value => !value.isEmpty
  | _ => true

/-- The present items of both values in one array. -/
def extended (current addition : Json) : Json :=
  .array ((Json.itemsOf current ++ Json.itemsOf addition).filter isPresent)

/-- The value at a path, if there is one and it is not null. -/
def existing? (value : Json) (path : Json.Path) : Option Json :=
  (value.get? path).filter fun found => !found.isNull

/-- One action on a value at a path. -/
def modifyAt (value : Json) (action : Action) (path : Json.Path) (argument : Json) : Except Stuck Json :=
  match action, existing? value path with
  | .add, some current => value.set path (extended current argument)
  | .add, none => value.set path argument
  | .append, some current => value.set path (extended current argument)
  | .append, none => .ok value
  | .set, _ => value.set path argument
  | .replace, some _ => value.set path argument
  | .replace, none => .ok value
  | .delete, _ => .ok ((Json.delete? path value).getD value)

/-- One action on a value; with a blank key nothing happens. -/
def modify (value : Json) (action : Action) (key : String) (argument : Json) : Except Stuck Json :=
  if Text.isBlank key then .ok value else modifyAt value action (Json.Path.ofText key) argument

end Junction.Change
