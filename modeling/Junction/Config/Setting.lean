import Junction.Json.Projection
import Junction.Json.Renaming

/-!
Values of configuration files, whatever their format, as all that they can be read as; and the reading of
records from them. A record is a table of its fields, or a list of their values in order. Fields that are not
known are passed over, so that only what is read is judged.
-/

namespace Junction.Config

/-- What a single value can be read as. -/
structure Readings where
  text : Option String := none
  flag : Option Bool := none
  /-- A natural number. -/
  word : Option Nat := none
  /-- The name of one of several alternatives. -/
  variant : Option String := none
  /-- The value stands for no value where one is optional. -/
  isNone : Bool := false
  /-- The value stands for a list or a table without entries. -/
  isVoid : Bool := false
  /-- A list may have more items than the record that is read from it has fields. -/
  spareItems : Bool := false
  /-- The JSON value of a value that is neither list nor table. -/
  scalar : Option Json := none
deriving Inhabited

/-- A value of a configuration: its readings, its items, and its fields; a name is none when it is no text. -/
inductive Setting where
  | node (readings : Readings) (items : Option (List Setting)) (fields : Option (List (Option String × Setting)))
deriving Inhabited

namespace Setting

/-- What a value can be read as by itself. -/
def readings : Setting → Readings
  | .node readings _ _ => readings

/-- The items of a value that reads as a list. -/
def items? : Setting → Option (List Setting)
  | .node readings items _ => if readings.isVoid then some [] else items

/-- The fields of a value that reads as a table. -/
def fields? : Setting → Option (List (Option String × Setting))
  | .node readings _ fields => if readings.isVoid then some [] else fields

/-- A value that cannot be read as anything. -/
def unreadable : Setting := .node {} none none

mutual

/-- The JSON value of a value. -/
def toJson? : Setting → Option Json
  | .node _ (some items) _ => (itemsToJson? items).map .array
  | .node _ none (some fields) => (fieldsToJson? fields).map fun found => .object (Keyed.ofList found)
  | .node readings none none => readings.scalar

/-- The JSON values of items. -/
def itemsToJson? : List Setting → Option (List Json)
  | [] => some []
  | item :: rest => (toJson? item).bind fun value => (itemsToJson? rest).map (value :: ·)

/-- The JSON values of fields. -/
def fieldsToJson? : List (Option String × Setting) → Option (List (String × Json))
  | [] => some []
  | (name, item) :: rest =>
    name.bind fun name =>
      (toJson? item).bind fun value => (fieldsToJson? rest).map ((name, value) :: ·)

end

end Setting

/-- Why a value is refused. -/
inductive Refusal where
  /-- It cannot be read as what is wanted. -/
  | shape
  | tag (bad : Json.Projection.BadTag)
  | target (bad : Json.Renaming.BadTarget)

/-- The wording of a refusal, where there is more to say than that a value has the wrong shape. -/
def Refusal.message? : Refusal → Option String
  | .shape => none
  | .tag bad => some bad.message
  | .target bad => some bad.message

/-- A way to read values. -/
abbrev Reader (α : Type) := Setting → Except Refusal α

namespace Reader

variable {α β : Type}

/-- The value of a reading, or a refusal without one. -/
def ofOption (found : Option α) : Except Refusal α :=
  match found with
  | some value => .ok value
  | none => .error .shape

/-- A text. -/
def text : Reader String := fun setting => ofOption setting.readings.text

/-- A boolean. -/
def flag : Reader Bool := fun setting => ofOption setting.readings.flag

/-- A natural number up to a limit. -/
def upTo (limit : Nat) : Reader Nat := fun setting => ofOption (setting.readings.word.filter (· ≤ limit))

/-- A number of a 64-bit word. -/
def word : Reader Nat := upTo Text.wordLimit

/-- A status code. -/
def status : Reader Nat := upTo 65535

/-- One of several alternatives. -/
def variant (ofName? : String → Option α) : Reader α := fun setting =>
  ofOption (setting.readings.variant.bind ofName?)

/-- A value that may be missing. -/
def optional (read : Reader α) : Reader (Option α) := fun setting =>
  if setting.readings.isNone then .ok none else (read setting).map some

/-- A list. -/
def list (read : Reader α) : Reader (List α) := fun setting =>
  (ofOption setting.items?).bind fun items => items.mapM read

/-- A field of a table with any names. -/
def entry (read : Reader α) (field : Option String × Setting) : Except Refusal (String × α) :=
  (ofOption field.1).bind fun name => (read field.2).map fun value => (name, value)

/-- A table with any names, in its order. -/
def table (read : Reader α) : Reader (List (String × α)) := fun setting =>
  (ofOption setting.fields?).bind fun fields => fields.mapM (entry read)

/-- Any JSON value. -/
def json : Reader Json := fun setting => ofOption setting.toJson?

/-- A projection: a table of tags. -/
def projection : Reader Json.Projection := fun setting =>
  (table json setting).bind fun fields => (Json.Projection.ofFields (Keyed.ofList fields)).mapError .tag

/-- A renaming: a table of names. -/
def names : Reader Json.Renaming := fun setting =>
  (table json setting).bind fun fields => (Json.Renaming.ofFields (Keyed.ofList fields)).mapError .target

/-- A field of a record: its name, and how its value becomes part of the record. -/
structure Field (α : Type) where
  name : String
  put : α → Reader α

/-- A field whose value is read on its own. -/
def Field.field (name : String) (read : Reader β) (put : β → α → α) : Field α :=
  ⟨name, fun record setting => (read setting).map fun value => put value record⟩

/-- The values of a list as the first fields of a record. -/
def putItems (spare : Bool) : List (Field α) → α → List Setting → Except Refusal α
  | _, record, [] => .ok record
  | [], record, _ :: _ => if spare then .ok record else .error .shape
  | known :: fields, record, item :: rest =>
    (known.put record item).bind fun record => putItems spare fields record rest

/-- The fields of a table as those of a record, one after another; a known field comes at most once. -/
def putFields (fields : List (Field α)) : (seen : List String) → α → List (Option String × Setting) →
    Except Refusal α
  | _, record, [] => .ok record
  | _, _, (none, _) :: _ => .error .shape
  | seen, record, (some name, setting) :: rest =>
    match fields.find? fun known => known.name == name with
    | none => putFields fields seen record rest
    | some known =>
      if seen.contains name then .error .shape
      else (known.put record setting).bind fun record => putFields fields (name :: seen) record rest

/-- A record: `initial`, with the fields that are given. -/
def record (fields : List (Field α)) (initial : α) : Reader α := fun setting =>
  match setting.fields? with
  | some given => putFields fields [] initial given
  | none =>
    match setting.items? with
    | some given => putItems setting.readings.spareItems fields initial given
    | none => .error .shape

end Reader
end Junction.Config
