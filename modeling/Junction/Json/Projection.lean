import Junction.Json.Edit

/-!
Projections keep or drop parts of a value. Entries whose key is a number concern the items of an array, all
other entries are paths into an object; each of the two sets keeps, drops, or lets everything pass.
-/

namespace Junction.Json

/-- What a set of entries does. -/
inductive Selection where
  | keep
  | drop
  | all
deriving DecidableEq, Repr, Inhabited

/-- Entries of a key and whether it is kept. -/
structure Projection where
  entries : List (String × Bool)
deriving DecidableEq, Repr, Inhabited

namespace Projection

/-- The key is a number: digits only, and at least one. -/
def isIndex (key : String) : Bool := !key.isEmpty && key.toList.all Char.isDigit

/-- What tags do: all alike they keep or drop, otherwise everything passes. -/
def selection (tags : List Bool) : Selection :=
  if tags.isEmpty then .all
  else if tags.all (fun tag => tag) then .keep
  else if tags.all (fun tag => !tag) then .drop
  else .all

/-- The entries on fields. -/
def fieldEntries (projection : Projection) : List (String × Bool) :=
  projection.entries.filter fun entry => !isIndex entry.1

/-- The entries on items. -/
def indexEntries (projection : Projection) : List (String × Bool) :=
  projection.entries.filter fun entry => isIndex entry.1

/-- What the entries on fields do. -/
def kind (projection : Projection) : Selection := selection (projection.fieldEntries.map (·.2))

/-- What the entries on items do. -/
def indexKind (projection : Projection) : Selection := selection (projection.indexEntries.map (·.2))

/-- The projection has no entry. -/
def isEmpty (projection : Projection) : Bool := projection.entries.isEmpty

/-- What `key` addresses in `source` written at the same path of `target`; on a failed write what was opened
stays. -/
def copy (source : Json) (target : Json) (key : String) : Json :=
  match source.get? (Path.ofText key) with
  | none => target
  | some found =>
    match target.set (Path.ofText key) found with
    | .ok written => written
    | .error stuck => stuck.left

/-- The value without what `key` addresses. -/
def remove (value : Json) (key : String) : Json := (delete? (Path.ofText key) value).getD value

/-- The entries on fields applied to an object. -/
def applyObject (projection : Projection) (value : Json) : Json :=
  match projection.kind with
  | .keep => (projection.fieldEntries.map (·.1)).foldl (copy value) (.object [])
  | .drop => (projection.fieldEntries.map (·.1)).foldl remove value
  | .all => value

/-- An entry names the item at a position. -/
def lists (projection : Projection) (position : Nat) : Bool :=
  projection.indexEntries.any fun entry => Text.word? entry.1.toList == some position

/-- The entries on items applied to the items of an array. -/
def applyItems (projection : Projection) (items : List Json) : List Json :=
  match projection.indexKind with
  | .keep => (items.zipIdx.filter fun item => projection.lists item.2).map (·.1)
  | .drop => (items.zipIdx.filter fun item => !projection.lists item.2).map (·.1)
  | .all => items

/-- The projection of a value: of an object, or of the items of an array and of the objects among them. -/
def apply (projection : Projection) (value : Json) : Json :=
  match value with
  | .object _ => projection.applyObject value
  | .array items =>
    .array ((projection.applyItems items).map fun item =>
      if item.isObject then projection.applyObject item else item)
  | other => other

/-- The tag of an entry: a boolean, or one of the integers 0 and 1. -/
def tag? : Json → Option Bool
  | .bool keep => some keep
  | .number (.int 1) => some true
  | .number (.int 0) => some false
  | _ => none

/-- An entry whose value is no tag. -/
structure BadTag where
  key : String
  value : Json

/-- The wording of a bad tag. -/
def BadTag.message (bad : BadTag) : String :=
  "projection '" ++ bad.key ++ "' must be 0 or 1, got " ++ bad.value.render

/-- One entry from a field. -/
def entryOf (field : String × Json) : Except BadTag (String × Bool) :=
  match tag? field.2 with
  | some keep => .ok (field.1, keep)
  | none => .error ⟨field.1, field.2⟩

/-- The projection of the fields of an object. -/
def ofFields (fields : List (String × Json)) : Except BadTag Projection :=
  (fields.mapM entryOf).map Projection.mk

/-- The projection as an object of zeros and ones. -/
def toJson (projection : Projection) : Json :=
  .object (Keyed.ofList (projection.entries.map fun (key, keep) => (key, ofNat (if keep then 1 else 0))))

end Projection
end Junction.Json
