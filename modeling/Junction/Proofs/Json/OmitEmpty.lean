import Junction.Json.OmitEmpty
import Junction.Proofs.Json.Inner
import Mathlib.Data.List.Forall2

/-!
Leaving out what is empty. Containers are looked at after what is in them, so one pass leaves nothing empty below the root
(`filled_omitEmpty`). All other scalars stay where they are (`content_omitEmpty`), and so does the rest of what holds them
(`thinned_omitEmpty`).
-/

namespace Junction.Json

variable {value : Json} {items : List Json} {fields : List (String × Json)}

theorem omitEmpty_array (items : List Json) :
    (Json.array items).omitEmpty = .array ((items.map omitEmpty).filter fun item => !item.isEmptyValue) := by
  rw [omitEmpty]
  congr 1
  induction items with
  | nil => rfl
  | cons item items ih =>
    rw [omitEmptyItems, ih, List.map_cons, List.filter_cons]
    cases item.omitEmpty.isEmptyValue <;> rfl

theorem omitEmpty_object (fields : List (String × Json)) : (Json.object fields).omitEmpty =
    .object ((fields.map fun field => (field.1, field.2.omitEmpty)).filter fun field => !field.2.isEmptyValue) := by
  rw [omitEmpty]
  congr 1
  induction fields with
  | nil => rfl
  | cons field fields ih =>
    rw [omitEmptyFields, ih, List.map_cons, List.filter_cons]
    cases field.2.omitEmpty.isEmptyValue <;> rfl

/-! ## What is empty below the root -/

/-- The values that are empty. -/
def empties : List Json := [.null, .text "", .array [], .object []]

/-- All values below the root of a value, each before those inside it. -/
def beneath : Json → List Json
  | .array items => ofItems items
  | .object fields => ofFields fields
  | _ => []
where
  /-- Items, and the values below them. -/
  ofItems : List Json → List Json
    | [] => []
    | item :: rest => item :: beneath item ++ ofItems rest
  /-- The values of fields, and those below them. -/
  ofFields : List (String × Json) → List Json
    | [] => []
    | (_, value) :: rest => value :: beneath value ++ ofFields rest

/-- Nothing below the root is empty. -/
def Filled (value : Json) : Prop := ∀ inner ∈ value.beneath, inner ∉ empties

theorem isEmptyValue_iff : value.isEmptyValue = true ↔ value ∈ empties := by
  cases value <;> simp [isEmptyValue, empties]

theorem beneath_array (items : List Json) : (Json.array items).beneath = items.flatMap fun item => item :: item.beneath := by
  rw [beneath]
  induction items with
  | nil => rfl
  | cons item items ih => rw [beneath.ofItems, ih, List.flatMap_cons]

theorem beneath_object (fields : List (String × Json)) :
    (Json.object fields).beneath = fields.flatMap fun field => field.2 :: field.2.beneath := by
  rw [beneath]
  induction fields with
  | nil => rfl
  | cons field fields ih => rw [beneath.ofFields, ih, List.flatMap_cons]

theorem filled_array_iff : Filled (.array items) ↔ ∀ item ∈ items, item ∉ empties ∧ Filled item := by
  simp only [Filled, beneath_array, List.forall_mem_flatMap, List.forall_mem_cons]

theorem filled_object_iff : Filled (.object fields) ↔ ∀ field ∈ fields, field.2 ∉ empties ∧ Filled field.2 := by
  simp only [Filled, beneath_object, List.forall_mem_flatMap, List.forall_mem_cons]

theorem filled_omitEmpty (value : Json) : Filled value.omitEmpty := by
  induction value with
  | null | bool | number | text => nofun
  | array items ih =>
    rw [omitEmpty_array, filled_array_iff]
    intro kept member
    obtain ⟨listed, filled⟩ := List.mem_filter.mp member
    obtain ⟨item, there, rfl⟩ := List.mem_map.mp listed
    exact ⟨mt isEmptyValue_iff.mpr (by simpa using filled), ih item there⟩
  | object fields ih =>
    rw [omitEmpty_object, filled_object_iff]
    intro kept member
    obtain ⟨listed, filled⟩ := List.mem_filter.mp member
    obtain ⟨field, there, rfl⟩ := List.mem_map.mp listed
    exact ⟨mt isEmptyValue_iff.mpr (by simpa using filled), ih field there⟩

theorem omitEmpty_eq_self (filled : Filled value) : value.omitEmpty = value := by
  induction value with
  | null | bool | number | text => rfl
  | array items ih =>
    rw [filled_array_iff] at filled
    have whole : ∀ item ∈ items, item.omitEmpty = item := fun item member => ih item member (filled item member).2
    rw [omitEmpty_array, List.map_congr_left whole, List.map_id', List.filter_eq_self.mpr]
    intro item member
    simpa using mt isEmptyValue_iff.mp (filled item member).1
  | object fields ih =>
    rw [filled_object_iff] at filled
    have whole : ∀ field ∈ fields, (field.1, field.2.omitEmpty) = field := fun field member => by
      rw [ih field member (filled field member).2]
    rw [omitEmpty_object, List.map_congr_left whole, List.map_id', List.filter_eq_self.mpr]
    intro field member
    simpa using mt isEmptyValue_iff.mp (filled field member).1

/-! ## What is kept -/

/-- The scalars that are not empty, in the order of the document, each with the names of the fields on the way to it. -/
def content : Json → List (List String × Json)
  | .null => []
  | .text value => if value = "" then [] else [([], .text value)]
  | .array items => ofItems items
  | .object fields => ofFields fields
  | scalar => [([], scalar)]
where
  /-- The scalars of items. -/
  ofItems : List Json → List (List String × Json)
    | [] => []
    | item :: rest => content item ++ ofItems rest
  /-- The scalars of fields. -/
  ofFields : List (String × Json) → List (List String × Json)
    | [] => []
    | (name, value) :: rest => (content value).map (fun found => (name :: found.1, found.2)) ++ ofFields rest

theorem content_array (items : List Json) : (Json.array items).content = items.flatMap content := by
  rw [content]
  induction items with
  | nil => rfl
  | cons item items ih => rw [content.ofItems, ih, List.flatMap_cons]

theorem content_object (fields : List (String × Json)) : (Json.object fields).content =
    fields.flatMap fun field => field.2.content.map fun found => (field.1 :: found.1, found.2) := by
  rw [content]
  induction fields with
  | nil => rfl
  | cons field fields ih => rw [content.ofFields, ih, List.flatMap_cons]

theorem content_of_mem_empties (empty : value ∈ empties) : value.content = [] := by
  simp only [empties, List.mem_cons, List.not_mem_nil, or_false] at empty
  rcases empty with rfl | rfl | rfl | rfl <;> rfl

/-- Members that contribute nothing may be left out. -/
theorem flatMap_filter_of_nil {α β : Type} {p : α → Bool} {f : α → List β} {l : List α}
    (out : ∀ x ∈ l, p x = false → f x = []) : (l.filter p).flatMap f = l.flatMap f := by
  induction l with
  | nil => rfl
  | cons x l ih =>
    have later := ih fun y member => out y (List.mem_cons_of_mem _ member)
    cases kept : p x with
    | true => rw [List.filter_cons_of_pos kept, List.flatMap_cons, List.flatMap_cons, later]
    | false =>
      rw [List.filter_cons_of_neg (by simp [kept]), List.flatMap_cons, out x List.mem_cons_self kept, List.nil_append, later]

theorem content_omitEmpty (value : Json) : value.omitEmpty.content = value.content := by
  induction value with
  | null | bool | number | text => rfl
  | array items ih =>
    rw [omitEmpty_array, content_array, content_array, flatMap_filter_of_nil, List.flatMap_map]
    · exact List.flatMap_congr ih
    · intro item _ empty
      exact content_of_mem_empties (isEmptyValue_iff.mp (by simpa using empty))
  | object fields ih =>
    rw [omitEmpty_object, content_object, content_object, flatMap_filter_of_nil, List.flatMap_map]
    · apply List.flatMap_congr
      intro field member
      rw [ih field member]
    · intro field _ empty
      rw [content_of_mem_empties (isEmptyValue_iff.mp (by simpa using empty)), List.map_nil]

/-! ## Nothing is added -/

mutual

/-- A value that is left of another one when items and fields are taken out of it, and out of what is kept of it. -/
inductive Thinned : Json → Json → Prop where
  | refl (value : Json) : Thinned value value
  | array {items kept : List Json} (each : List.SublistForall₂ Thinned kept items) : Thinned (.array kept) (.array items)
  | object {fields kept : List (String × Json)} (each : List.SublistForall₂ ThinnedField kept fields) :
    Thinned (.object kept) (.object fields)

/-- A field that is left of another one, under its name. -/
inductive ThinnedField : String × Json → String × Json → Prop where
  | mk (name : String) {kept value : Json} (inside : Thinned kept value) : ThinnedField (name, kept) (name, value)

end

theorem sublistForall₂_filter_map {α : Type} {R : α → α → Prop} {p : α → Bool} {f : α → α} {l : List α}
    (each : ∀ x ∈ l, R (f x) x) : List.SublistForall₂ R ((l.map f).filter p) l := by
  rw [List.filter_map, List.sublistForall₂_map_left_iff, List.sublistForall₂_iff]
  exact ⟨_, List.forall₂_same.mpr fun x member => each x (List.mem_filter.mp member).1, List.filter_sublist⟩

theorem thinned_omitEmpty (value : Json) : Thinned value.omitEmpty value := by
  induction value with
  | null | bool | number | text => exact .refl _
  | array items ih =>
    rw [omitEmpty_array]
    exact .array (sublistForall₂_filter_map ih)
  | object fields ih =>
    rw [omitEmpty_object]
    exact .object (sublistForall₂_filter_map fun field member => .mk field.1 (ih field member))

/-- Leaving out what is empty leaves nothing empty below the root. All scalars that are not empty stay, in their order and
under their names, and nothing else is added. Done once more it changes nothing, and a value is unchanged if and only if
nothing below its root is empty. -/
theorem omitEmpty_normal (value : Json) :
    Filled value.omitEmpty ∧ value.omitEmpty.content = value.content ∧ Thinned value.omitEmpty value ∧
      value.omitEmpty.omitEmpty = value.omitEmpty ∧ (value.omitEmpty = value ↔ Filled value) := by
  have filled := filled_omitEmpty value
  refine ⟨filled, content_omitEmpty value, thinned_omitEmpty value, omitEmpty_eq_self filled, fun same => ?_,
    omitEmpty_eq_self⟩
  rwa [same] at filled

example : omitEmpty (.array [.null, .object [("a", .array [.text ""])], .object [("b", .bool false), ("c", .object [])]]) =
    .array [.object [("b", .bool false)]] := rfl

end Junction.Json
