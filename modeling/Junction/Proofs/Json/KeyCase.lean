import Junction.Json.KeyCase
import Junction.Proofs.Json.Leaves
import Junction.Proofs.Json.Names
import Junction.Proofs.Json.Without
import Mathlib.Data.List.Forall2

/-!
The names of a value in one spelling. Where the spelled names of an object are distinct, names change and nothing else;
where two are the same, a field is lost, and the value has its shape no more (`apply_sameShape_iff`). No scalar is there
that was not there before (`leaves_apply_le`).
-/

namespace Junction.Json

variable {value : Json} {keyCase : KeyCase} {items others : List Json} {fields more : List (String × Json)}

/-! ## Shape -/

/-- Two values with the same scalars at the same places: they differ at most in the names of fields. -/
def SameShape (value other : Json) : Prop := (value.mapNames fun _ => "") = other.mapNames fun _ => ""

theorem sameShape_array_iff : SameShape (.array items) (.array others) ↔ List.Forall₂ SameShape items others := by
  rw [SameShape, mapNames_array, mapNames_array, Json.array.injEq, ← List.forall₂_eq_eq_eq, List.forall₂_map_left_iff,
    List.forall₂_map_right_iff]
  rfl

theorem sameShape_object_iff :
    SameShape (.object fields) (.object more) ↔ List.Forall₂ (fun field other => SameShape field.2 other.2) fields more := by
  rw [SameShape, mapNames_object, mapNames_object, Json.object.injEq, ← List.forall₂_eq_eq_eq, List.forall₂_map_left_iff,
    List.forall₂_map_right_iff]
  simp only [mapField, Prod.mk.injEq, true_and, SameShape]

theorem sameShape_mapNames (change : String → String) (value : Json) : SameShape (value.mapNames change) value :=
  mapNames_mapNames change _ value

namespace KeyCase

theorem apply_array (keyCase : KeyCase) (items : List Json) :
    keyCase.apply (.array items) = .array (items.map keyCase.apply) := by
  rw [apply]
  congr 1
  induction items with
  | nil => rfl
  | cons item items ih => rw [applyItems, ih, List.map_cons]

theorem apply_object (keyCase : KeyCase) (fields : List (String × Json)) :
    keyCase.apply (.object fields) =
      .object (Keyed.ofList (fields.map fun field => (keyCase.convert field.1, keyCase.apply field.2))) := by
  rw [apply]
  congr 2
  induction fields with
  | nil => rfl
  | cons field fields ih => rw [applyFields, ih, List.map_cons]

/-! ## Distinct names -/

theorem apply_eq_mapNames (distinct : Distinct (value.mapNames keyCase.convert)) :
    keyCase.apply value = value.mapNames keyCase.convert := by
  induction value with
  | null | bool | number | text => rfl
  | array items ih =>
    rw [mapNames_array, distinct_array, List.forall_mem_map] at distinct
    rw [apply_array, mapNames_array]
    exact congrArg Json.array (List.map_congr_left fun item member => ih item member (distinct item member))
  | object fields ih =>
    rw [mapNames_object, distinct_object, List.forall_mem_map] at distinct
    have each : ∀ field ∈ fields, (keyCase.convert field.1, keyCase.apply field.2) = mapField keyCase.convert field := by
      intro field member
      rw [mapField, ih field member (distinct.2 field member)]
    rw [apply_object, mapNames_object, List.map_congr_left each, Keyed.ofList_of_nodup distinct.1]

/-- Two fields of one spelled name are one afterwards, so a value that keeps its shape has none. -/
theorem distinct_of_sameShape (same : SameShape (keyCase.apply value) value) : Distinct (value.mapNames keyCase.convert) := by
  induction value with
  | null => exact .null
  | bool value => exact .bool value
  | number value => exact .number value
  | text value => exact .text value
  | array items ih =>
    rw [apply_array, sameShape_array_iff, List.forall₂_map_left_iff, List.forall₂_same] at same
    rw [mapNames_array, distinct_array, List.forall_mem_map]
    exact fun item member => ih item member (same item member)
  | object fields ih =>
    rw [apply_object, sameShape_object_iff] at same
    have once := Keyed.nodup_of_length_ofList (same.length_eq.trans (List.length_map _).symm)
    rw [Keyed.ofList_of_nodup once, List.forall₂_map_left_iff, List.forall₂_same] at same
    rw [mapNames_object, distinct_object, List.forall_mem_map]
    refine ⟨?_, fun field member => ih field member (same field member)⟩
    rw [List.map_map] at once ⊢
    exact once

/-! ## Scalars -/

theorem leaves_ofList_le (entries : List (String × Json)) :
    ((Json.object (Keyed.ofList entries)).leaves : Multiset Json) ≤ (Json.object entries).leaves := by
  induction entries using List.reverseRecOn with
  | nil => exact le_rfl
  | append_singleton entries entry ih =>
    have put := leaves_put entry.1 entry.2 (Keyed.ofList entries)
    have last : (Json.object [entry]).leaves = entry.2.leaves := by
      rw [leaves_object, List.flatMap_singleton]
    rw [Keyed.ofList_concat, leaves_object_append, last, ← Multiset.coe_add]
    exact (Multiset.le_add_right _ _).trans (put.trans_le (add_le_add_left ih _))

theorem leaves_apply_le (keyCase : KeyCase) (value : Json) :
    ((keyCase.apply value).leaves : Multiset Json) ≤ value.leaves := by
  induction value with
  | null | bool | number | text => exact le_rfl
  | array items ih =>
    rw [apply_array, leaves_array, leaves_array]
    induction items with
    | nil => exact le_rfl
    | cons item items rest =>
      rw [List.forall_mem_cons] at ih
      rw [List.map_cons, List.flatMap_cons, List.flatMap_cons, ← Multiset.coe_add, ← Multiset.coe_add]
      exact add_le_add ih.1 (rest ih.2)
  | object fields ih =>
    rw [apply_object]
    refine (leaves_ofList_le _).trans ?_
    induction fields with
    | nil => exact le_rfl
    | cons field fields rest =>
      rw [List.forall_mem_cons] at ih
      rw [List.map_cons, leaves_object_cons, leaves_object_cons, ← Multiset.coe_add, ← Multiset.coe_add]
      exact add_le_add ih.1 (rest ih.2)

/-- A value in one spelling keeps its shape if and only if no two fields of one object have one name in that spelling, and
then, and only then, its names are spelled and nothing else is changed. In any case its scalars are among those of the value,
none more often. -/
theorem apply_sameShape_iff (keyCase : KeyCase) (value : Json) :
    (SameShape (keyCase.apply value) value ↔ Distinct (value.mapNames keyCase.convert)) ∧
      (keyCase.apply value = value.mapNames keyCase.convert ↔ Distinct (value.mapNames keyCase.convert)) ∧
      ((keyCase.apply value).leaves : Multiset Json) ≤ value.leaves := by
  have shaped : keyCase.apply value = value.mapNames keyCase.convert → SameShape (keyCase.apply value) value := by
    intro same
    rw [same]
    exact sameShape_mapNames keyCase.convert value
  refine ⟨⟨distinct_of_sameShape, fun distinct => shaped (apply_eq_mapNames distinct)⟩,
    ⟨fun same => distinct_of_sameShape (shaped same), apply_eq_mapNames⟩, leaves_apply_le keyCase value⟩

/-- An object with one name in two spellings. -/
def twoSpellings : Json := .object [("userName", Json.ofNat 1), ("user_name", Json.ofNat 2)]

/-- Of two fields that are spelled alike only the later value is left. -/
theorem apply_loses : snake.apply twoSpellings = .object [("user_name", Json.ofNat 2)] ∧
    ¬ SameShape (snake.apply twoSpellings) twoSpellings := by
  have result : snake.apply twoSpellings = .object [("user_name", Json.ofNat 2)] := by
    have spelled : snake.convert "userName" = "user_name" ∧ snake.convert "user_name" = "user_name" := by decide +kernel
    rw [twoSpellings, apply_object, List.map_cons, List.map_singleton, spelled.1, spelled.2]
    rfl
  refine ⟨result, fun same => ?_⟩
  rw [result, twoSpellings, sameShape_object_iff] at same
  exact absurd same.length_eq (by decide)

end KeyCase
end Junction.Json
