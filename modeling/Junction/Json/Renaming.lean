import Junction.Json.Printer

/-!
Renaming the fields of every object in a value.
-/

namespace Junction.Json

/-- Pairs of an old and a new name, applied one after another. -/
structure Renaming where
  pairs : List (String × String)
deriving DecidableEq, Repr, Inhabited

namespace Renaming

/-- There is no pair. -/
def isEmpty (names : Renaming) : Bool := names.pairs.isEmpty

/-- The field of the old name under the new one at its place; another field of the new name disappears. -/
def renameField (old new : String) (field : String × Json) : Option (String × Json) :=
  if field.1 = old then some (new, field.2)
  else if field.1 = new then none
  else some field

/-- One pair applied to fields, if the old name is among them. -/
def renamePair (fields : List (String × Json)) (pair : String × String) : List (String × Json) :=
  if pair.1 ≠ pair.2 ∧ Keyed.contains pair.1 fields then fields.filterMap (renameField pair.1 pair.2)
  else fields

/-- All pairs applied to the fields of one object. -/
def renameFields (names : Renaming) (fields : List (String × Json)) : List (String × Json) :=
  names.pairs.foldl renamePair fields

mutual

/-- All pairs applied to every object, the inner ones first. -/
def apply (names : Renaming) : Json → Json
  | .array items => .array (applyItems names items)
  | .object fields => .object (names.renameFields (applyFields names fields))
  | other => other

/-- All pairs applied inside every item. -/
def applyItems (names : Renaming) : List Json → List Json
  | [] => []
  | item :: rest => apply names item :: applyItems names rest

/-- All pairs applied inside the value of every field. -/
def applyFields (names : Renaming) : List (String × Json) → List (String × Json)
  | [] => []
  | (name, value) :: rest => (name, apply names value) :: applyFields names rest

end

/-- A target that is no text. -/
structure BadTarget where
  name : String
  value : Json

/-- The wording of a bad target. -/
def BadTarget.message (bad : BadTarget) : String :=
  "mapper target for '" ++ bad.name ++ "' must be a string, got " ++ bad.value.render

/-- One pair from a field. -/
def targetOf (field : String × Json) : Except BadTarget (String × String) :=
  match field.2.asText? with
  | some new => .ok (field.1, new)
  | none => .error ⟨field.1, field.2⟩

/-- The renaming by the fields of an object: each name to the text of its value. -/
def ofFields (fields : List (String × Json)) : Except BadTarget Renaming :=
  (fields.mapM targetOf).map Renaming.mk

/-- The pairs as an object. -/
def toJson (names : Renaming) : Json :=
  .object (Keyed.ofList (names.pairs.map fun (old, new) => (old, .text new)))

end Renaming
end Junction.Json
