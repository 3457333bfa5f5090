import Junction.Data.Sorted
import Junction.Json.Basic
import Junction.Change.Action
import Junction.Route.Segment

/-!
The parameters that a path template has taken from a path, and the templates filled with them.
-/

namespace Junction

/-- One value for each parameter name. -/
structure Params where
  values : Sorted String
deriving Inhabited

namespace Params

/-- No parameter. -/
def empty : Params := ⟨.empty⟩

instance : EmptyCollection Params := ⟨empty⟩

/-- The parameters of pairs; a later pair counts. -/
def ofPairs (pairs : List (String × String)) : Params := ⟨.ofList pairs⟩

/-- The value of a parameter. -/
def get? (params : Params) (name : String) : Option String := params.values.get? name

/-- The parameter has a value. -/
def contains (params : Params) (name : String) : Bool := params.values.contains name

/-- There is no parameter. -/
def isEmpty (params : Params) : Bool := params.values.isEmpty

/-- A parameter with a value. -/
def set (params : Params) (name value : String) : Params := ⟨params.values.insert name value⟩

/-- The parameters without one. -/
def delete (params : Params) (name : String) : Params := ⟨params.values.erase name⟩

/-- One action on a parameter; adding keeps a value that is there, extending puts text after it. Without a
key nothing happens. -/
def modify (params : Params) (action : Action) (key value : String) : Params :=
  if key.isEmpty then params
  else match action, params.get? key with
    | .add, none => params.set key value
    | .add, some _ => params
    | .append, some current => params.set key (current ++ value)
    | .append, none => params
    | .set, _ => params.set key value
    | .replace, some _ => params.set key value
    | .replace, none => params
    | .delete, _ => params.delete key

/-- A segment of a template with the value of its parameter, or as it is. -/
def fillSegment (params : Params) (segment : List Char) : List Char :=
  match (Route.Segment.ofText segment).name?.bind params.get? with
  | some value => value.toList
  | none => segment

/-- A template with the values of its parameters; unknown ones stay as they are. -/
def fill (params : Params) (template : String) : String :=
  String.ofList (Text.joined '/' ((Text.pieces '/' template.toList).map params.fillSegment))

/-- The parameters as an object. -/
def toJson (params : Params) : Json :=
  .object (params.values.entries.map fun (name, value) => (name, .text value))

end Params
end Junction
