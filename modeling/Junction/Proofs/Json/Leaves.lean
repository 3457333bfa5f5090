import Junction.Json.Merge
import Junction.Proofs.Data.Keyed
import Mathlib.Algebra.Order.Group.Multiset
import Mathlib.Tactic.Abel

/-!
The scalars in a value, without nulls. Merging two values keeps all of them, each as often as both together have it
(`leaves_merge`), and so does adding fields to an object.
-/

namespace Junction.Json

variable {name : String} {value : Json} {fields more : List (String × Json)}

/-- The scalars other than null in a value, in the order of the document. -/
def leaves : Json → List Json
  | .null => []
  | .array items => ofItems items
  | .object fields => ofFields fields
  | scalar => [scalar]
where
  /-- The scalars of items. -/
  ofItems : List Json → List Json
    | [] => []
    | item :: rest => leaves item ++ ofItems rest
  /-- The scalars of fields. -/
  ofFields : List (String × Json) → List Json
    | [] => []
    | (_, value) :: rest => leaves value ++ ofFields rest

theorem leaves_array (items : List Json) : (Json.array items).leaves = items.flatMap leaves := by
  rw [leaves]
  induction items with
  | nil => rfl
  | cons item items ih => rw [leaves.ofItems, ih, List.flatMap_cons]

theorem leaves_object (fields : List (String × Json)) :
    (Json.object fields).leaves = fields.flatMap fun field => field.2.leaves := by
  rw [leaves]
  induction fields with
  | nil => rfl
  | cons field fields ih => rw [leaves.ofFields, ih, List.flatMap_cons]

theorem leaves_itemsOf (value : Json) : value.itemsOf.flatMap leaves = value.leaves := by
  cases value with
  | array items => exact (leaves_array items).symm
  | null | bool | number | text | object => exact List.flatMap_singleton ..

theorem leaves_concat (first second : Json) : (concat first second).leaves = first.leaves ++ second.leaves := by
  rw [concat, leaves_array, List.flatMap_append, leaves_itemsOf, leaves_itemsOf]

theorem leaves_object_append (fields more : List (String × Json)) :
    (Json.object (fields ++ more)).leaves = (Json.object fields).leaves ++ (Json.object more).leaves := by
  rw [leaves_object, leaves_object, leaves_object, List.flatMap_append]

theorem leaves_object_cons (field : String × Json) (fields : List (String × Json)) :
    (Json.object (field :: fields)).leaves = field.2.leaves ++ (Json.object fields).leaves := by
  rw [leaves_object, leaves_object, List.flatMap_cons]

/-- Putting a field changes the scalars of that field. -/
theorem leaves_put (name : String) (value : Json) (fields : List (String × Json)) :
    ((Json.object (Keyed.put name value fields)).leaves : Multiset Json) +
      ((Keyed.get? name fields).getD .null).leaves = (Json.object fields).leaves + value.leaves := by
  rcases Keyed.put_cases name value fields with ⟨absent, same⟩ | ⟨front, old, back, first, rfl, same⟩
  · rw [same, Keyed.get?_eq_none_iff.mpr absent, leaves_object_append, leaves_object_cons]
    simp [leaves, leaves.ofFields]
  · rw [same, Keyed.get?_of_first first]
    simp only [leaves_object_append, leaves_object_cons, Option.getD_some, ← Multiset.coe_add]
    abel

theorem leaves_put_new (absent : Keyed.get? name fields = none) (value : Json) :
    ((Json.object (Keyed.put name value fields)).leaves : Multiset Json) = (Json.object fields).leaves + value.leaves := by
  have put := leaves_put name value fields
  rw [absent] at put
  simpa [leaves] using put

/-- Joining a value to that of a field adds its scalars. -/
theorem leaves_put_joined {present joined : Json} (found : Keyed.get? name fields = some present)
    (joins : (joined.leaves : Multiset Json) = present.leaves + value.leaves) :
    ((Json.object (Keyed.put name joined fields)).leaves : Multiset Json) = (Json.object fields).leaves + value.leaves := by
  have put := leaves_put name joined fields
  rw [found, Option.getD_some, joins] at put
  apply add_right_cancel (b := (present.leaves : Multiset Json))
  rw [put]
  abel

theorem leaves_addField (fields : List (String × Json)) (field : String × Json) :
    ((Json.object (addField fields field)).leaves : Multiset Json) = (Json.object fields).leaves + field.2.leaves := by
  rw [addField]
  cases found : Keyed.get? field.1 fields with
  | none => exact leaves_put_new found field.2
  | some present => exact leaves_put_joined found (by rw [leaves_concat, Multiset.coe_add])

/-- Fields added one after another, under whatever names, keep their scalars. -/
theorem leaves_foldl {add : List (String × Json) → String × Json → List (String × Json)}
    (each : ∀ fields field, ((Json.object (add fields field)).leaves : Multiset Json) =
      (Json.object fields).leaves + field.2.leaves) (fields more : List (String × Json)) :
    ((Json.object (more.foldl add fields)).leaves : Multiset Json) =
      (Json.object fields).leaves + (Json.object more).leaves := by
  induction more generalizing fields with
  | nil => simp [leaves, leaves.ofFields]
  | cons field more ih =>
    rw [List.foldl_cons, ih, each, leaves_object_cons, ← Multiset.coe_add, add_assoc]

theorem leaves_merge (base incoming : Json) :
    ((base.merge incoming).leaves : Multiset Json) = base.leaves + incoming.leaves := by
  unfold merge
  split
  · exact leaves_foldl leaves_addField _ _
  · exact (zero_add _).symm
  · exact (add_zero _).symm
  · rw [leaves_concat, Multiset.coe_add]

end Junction.Json
