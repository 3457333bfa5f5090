import Junction.Proofs.Json.Inner
import Mathlib.Data.List.Basic

/-!
The names of the fields in a value (`names`), and a value with other names and nothing else changed (`mapNames`). Two
changes of names are one (`mapNames_mapNames`), and only the names that are there matter (`mapNames_congr`).
-/

namespace Junction.Json

variable {change other : String → String} {value : Json}

/-! ## Names -/

/-- The names of the fields of all objects in a value, in the order of the document. -/
def names : Json → List String
  | .array items => ofItems items
  | .object fields => ofFields fields
  | _ => []
where
  /-- The names in items. -/
  ofItems : List Json → List String
    | [] => []
    | item :: rest => names item ++ ofItems rest
  /-- The names of fields, and those in their values. -/
  ofFields : List (String × Json) → List String
    | [] => []
    | (name, value) :: rest => name :: names value ++ ofFields rest

@[simp] theorem names_array (items : List Json) : (Json.array items).names = items.flatMap names := by
  rw [names]
  induction items with
  | nil => rfl
  | cons item items ih => rw [names.ofItems, ih, List.flatMap_cons]

@[simp] theorem names_object (fields : List (String × Json)) :
    (Json.object fields).names = fields.flatMap fun field => field.1 :: field.2.names := by
  rw [names]
  induction fields with
  | nil => rfl
  | cons field fields ih =>
    obtain ⟨name, value⟩ := field
    rw [names.ofFields, ih, List.flatMap_cons]

theorem mem_names_of_item {items : List Json} {item : Json} (member : item ∈ items) {name : String}
    (inside : name ∈ item.names) : name ∈ (Json.array items).names := by
  rw [names_array]
  exact List.mem_flatMap.mpr ⟨item, member, inside⟩

theorem mem_names_of_field {fields : List (String × Json)} {field : String × Json} (member : field ∈ fields) {name : String}
    (inside : name ∈ field.1 :: field.2.names) : name ∈ (Json.object fields).names := by
  rw [names_object]
  exact List.mem_flatMap.mpr ⟨field, member, inside⟩

/-! ## Other names -/

/-- A value with every name changed: as many fields in the same order, as many items, and every scalar as it was. -/
def mapNames (change : String → String) : Json → Json
  | .array items => .array (ofItems change items)
  | .object fields => .object (ofFields change fields)
  | scalar => scalar
where
  /-- Items with their names changed. -/
  ofItems (change : String → String) : List Json → List Json
    | [] => []
    | item :: rest => mapNames change item :: ofItems change rest
  /-- Fields with their names, and those in their values, changed. -/
  ofFields (change : String → String) : List (String × Json) → List (String × Json)
    | [] => []
    | (name, value) :: rest => (change name, mapNames change value) :: ofFields change rest

/-- The change of one field. -/
def mapField (change : String → String) (field : String × Json) : String × Json :=
  (change field.1, field.2.mapNames change)

@[simp] theorem mapNames_array (change : String → String) (items : List Json) :
    (Json.array items).mapNames change = .array (items.map (mapNames change)) := by
  rw [mapNames]
  congr 1
  induction items with
  | nil => rfl
  | cons item items ih => rw [mapNames.ofItems, ih, List.map_cons]

@[simp] theorem mapNames_object (change : String → String) (fields : List (String × Json)) :
    (Json.object fields).mapNames change = .object (fields.map (mapField change)) := by
  rw [mapNames]
  congr 1
  induction fields with
  | nil => rfl
  | cons field fields ih => rw [mapNames.ofFields, ih, List.map_cons, mapField]

theorem names_mapNames (change : String → String) (value : Json) :
    (value.mapNames change).names = value.names.map change := by
  induction value with
  | null | bool | number | text => rfl
  | array items ih =>
    rw [mapNames_array, names_array, names_array, List.flatMap_map, List.map_flatMap]
    exact List.flatMap_congr ih
  | object fields ih =>
    rw [mapNames_object, names_object, names_object, List.flatMap_map, List.map_flatMap]
    apply List.flatMap_congr
    intro field member
    rw [mapField, ih field member, List.map_cons]

theorem mapNames_mapNames (change other : String → String) (value : Json) :
    (value.mapNames change).mapNames other = value.mapNames (other ∘ change) := by
  induction value with
  | null | bool | number | text => rfl
  | array items ih =>
    rw [mapNames_array, mapNames_array, mapNames_array, List.map_map]
    exact congrArg Json.array (List.map_congr_left ih)
  | object fields ih =>
    rw [mapNames_object, mapNames_object, mapNames_object, List.map_map]
    refine congrArg Json.object (List.map_congr_left fun field member => ?_)
    rw [Function.comp_apply, mapField, mapField, mapField, ih field member, Function.comp_apply]

/-- What is done to names that are not there does not matter. -/
theorem mapNames_congr (same : ∀ name ∈ value.names, change name = other name) :
    value.mapNames change = value.mapNames other := by
  induction value with
  | null | bool | number | text => rfl
  | array items ih =>
    rw [mapNames_array, mapNames_array]
    refine congrArg Json.array (List.map_congr_left fun item member => ?_)
    exact ih item member fun name inside => same name (mem_names_of_item member inside)
  | object fields ih =>
    rw [mapNames_object, mapNames_object]
    refine congrArg Json.object (List.map_congr_left fun field member => ?_)
    have here := same field.1 (mem_names_of_field member List.mem_cons_self)
    rw [mapField, mapField, here,
      ih field member fun name inside => same name (mem_names_of_field member (List.mem_cons_of_mem _ inside))]

theorem mapNames_id (value : Json) : value.mapNames id = value := by
  induction value with
  | null | bool | number | text => rfl
  | array items ih =>
    rw [mapNames_array, List.map_congr_left ih, List.map_id']
  | object fields ih =>
    have whole : ∀ field ∈ fields, mapField id field = field := fun field member => by
      rw [mapField, ih field member, id_eq]
    rw [mapNames_object, List.map_congr_left whole, List.map_id']

/-- A change that keeps the names that are there changes nothing. -/
theorem mapNames_eq_self (kept : ∀ name ∈ value.names, change name = name) : value.mapNames change = value :=
  (mapNames_congr kept).trans (mapNames_id value)

end Junction.Json
