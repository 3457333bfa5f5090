import Junction.Json.Path

/-!
Reading, writing and removing what a path addresses. Writing opens the containers that are missing on the
way; where it cannot go on it fails, and what it has opened so far stays.
-/

namespace Junction.Json

/-- The value one step below. -/
def child? (value : Json) (segment : Segment) : Option Json :=
  match value with
  | .object fields => Keyed.get? segment.name fields
  | .array items => segment.position?.bind fun position => items[position]?
  | _ => none

/-- The value at the end of a path. -/
def get? (value : Json) : Path → Option Json
  | [] => some value
  | segment :: rest => (value.child? segment).bind fun child => get? child rest

/-- Why a path cannot be written. -/
inductive PathError where
  | noSegment
  | keyIntoArray (key : String)
  | tooFar (position size : Nat)
  | throughScalar (key : String) (scalar : Json)

/-- The wording of an error on the given path. -/
def PathError.message (path : String) : PathError → String
  | noSegment => "empty path '" ++ path ++ "'"
  | keyIntoArray key => "cannot address array with key '" ++ key ++ "' in '" ++ path ++ "'"
  | tooFar position size =>
    "index " ++ toString position ++ " is too far past the end of a " ++ toString size ++
      "-item array in '" ++ path ++ "'"
  | throughScalar key scalar =>
    "cannot set '" ++ key ++ "' through scalar " ++ scalar.render ++ " in '" ++ path ++ "'"

/-- A failed write: its cause, and the value as it is left. -/
structure Stuck where
  error : PathError
  left : Json

/-- The result of a write, inside the value around it. -/
def within (around : Json → Json) : Except Stuck Json → Except Stuck Json
  | .ok value => .ok (around value)
  | .error stuck => .error ⟨stuck.error, around stuck.left⟩

/-- The number of nulls that a write may add to reach an item of an array. -/
def paddingLimit : Nat := 1024

/-- The container of a segment in the place of null; any other value as it is. -/
def opened (segment : Segment) (value : Json) : Json :=
  if value.isNull then segment.container else value

/-- The items, with nulls added so that there is one at the position. -/
def padded (items : List Json) (position : Nat) : List Json :=
  items ++ List.replicate (position + 1 - items.length) .null

/-- The value with `new` at the end of a path. -/
def setAt (new : Json) : Path → Json → Except Stuck Json
  | [], _ => .ok new
  | segment :: rest, value =>
    match opened segment value with
    | .object fields =>
      within (fun child => .object (Keyed.put segment.name child fields))
        (setAt new rest ((Keyed.get? segment.name fields).getD .null))
    | .array items =>
      match segment.position? with
      | none => .error ⟨.keyIntoArray segment.name, .array items⟩
      | some position =>
        if items.length + paddingLimit ≤ position then
          .error ⟨.tooFar position items.length, .array items⟩
        else
          within (fun child => .array ((padded items position).set position child))
            (setAt new rest ((items[position]?).getD .null))
    | scalar => .error ⟨.throughScalar segment.name scalar, scalar⟩

/-- The value with `new` at the end of a path of at least one segment. -/
def set (value : Json) (path : Path) (new : Json) : Except Stuck Json :=
  if path.isEmpty then .error ⟨.noSegment, value⟩ else setAt new path value

/-- The value without the child at a step; none when there is no such child. -/
def removeChild? (value : Json) (segment : Segment) : Option Json :=
  match value with
  | .object fields =>
    if Keyed.contains segment.name fields then some (.object (Keyed.erase segment.name fields)) else none
  | .array items =>
    segment.position?.bind fun position =>
      if position < items.length then some (.array (items.eraseIdx position)) else none
  | _ => none

/-- The value with another child in the place of one it has. -/
def replaceChild (value : Json) (segment : Segment) (child : Json) : Json :=
  match value with
  | .object fields => .object (Keyed.put segment.name child fields)
  | .array items => .array ((segment.position?.map fun position => items.set position child).getD items)
  | scalar => scalar

/-- The value without what a path addresses; none when it addresses nothing or the root. -/
def delete? : Path → Json → Option Json
  | [], _ => none
  | [segment], value => value.removeChild? segment
  | segment :: rest, value =>
    (value.child? segment).bind fun child => (delete? rest child).map (value.replaceChild segment)

end Junction.Json
