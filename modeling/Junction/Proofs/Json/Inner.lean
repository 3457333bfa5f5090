import Junction.Json.Merge

/-!
Induction over what is inside a value: the items of an array and the values of the fields of an object (`nested`). Where a
value that is no array counts as its only item, it goes on in the items of each field (`inner`).
-/

namespace Junction.Json

@[elab_as_elim, induction_eliminator]
theorem nested {motive : Json → Prop} (null : motive .null) (bool : ∀ value, motive (.bool value))
    (number : ∀ value, motive (.number value)) (text : ∀ value, motive (.text value))
    (array : ∀ items, (∀ item ∈ items, motive item) → motive (.array items))
    (object : ∀ fields, (∀ field ∈ fields, motive field.2) → motive (.object fields)) : ∀ value : Json, motive value
  | .null => null
  | .bool value => bool value
  | .number value => number value
  | .text value => text value
  | .array items => array items fun item _ => nested null bool number text array object item
  | .object fields => object fields fun field _ => nested null bool number text array object field.2
termination_by value => sizeOf value
decreasing_by
  · rename_i member
    have smaller := List.sizeOf_lt_of_mem member
    simp only [Json.array.sizeOf_spec]
    omega
  · rename_i member
    have smaller := List.sizeOf_lt_of_mem member
    obtain ⟨name, value⟩ := field
    simp only [Json.object.sizeOf_spec, Prod.mk.sizeOf_spec] at smaller ⊢
    omega

theorem sizeOf_le_of_item {value item : Json} (inside : item ∈ value.itemsOf) : sizeOf item ≤ sizeOf value := by
  cases value with
  | array items =>
    have smaller : sizeOf item < sizeOf items := List.sizeOf_lt_of_mem inside
    simp only [array.sizeOf_spec]
    omega
  | null | bool | number | text | object => exact Nat.le_of_eq (congrArg sizeOf (List.mem_singleton.mp inside))

theorem sizeOf_lt_of_field {fields : List (String × Json)} {field : String × Json} {item : Json} (member : field ∈ fields)
    (inside : item ∈ itemsOf field.2) : sizeOf item < sizeOf (object fields) := by
  have field_lt := List.sizeOf_lt_of_mem member
  have item_le := sizeOf_le_of_item inside
  obtain ⟨key, value⟩ := field
  simp only [Prod.mk.sizeOf_spec] at field_lt item_le
  simp only [object.sizeOf_spec]
  omega

@[elab_as_elim]
theorem inner {motive : Json → Prop} (null : motive .null) (bool : ∀ value, motive (.bool value))
    (number : ∀ value, motive (.number value)) (text : ∀ value, motive (.text value))
    (array : ∀ items, (∀ item ∈ items, motive item) → motive (.array items))
    (object : ∀ fields, (∀ field ∈ fields, ∀ item ∈ itemsOf field.2, motive item) → motive (.object fields)) :
    ∀ value : Json, motive value
  | .null => null
  | .bool value => bool value
  | .number value => number value
  | .text value => text value
  | .array items => array items fun item _ => inner null bool number text array object item
  | .object fields => object fields fun _ _ item _ => inner null bool number text array object item
termination_by value => sizeOf value
decreasing_by
  · rename_i member
    have smaller := List.sizeOf_lt_of_mem member
    simp only [Json.array.sizeOf_spec]
    omega
  · rename_i member inside
    exact sizeOf_lt_of_field member inside

end Junction.Json
