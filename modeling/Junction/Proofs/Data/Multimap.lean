import Junction.Data.Multimap
import Junction.Proofs.Data.Sorted

/-!
The laws of maps to one or more strings, told by the values of each key.
-/

namespace Junction.Multimap

variable {m one other : Multimap} {key name value : String}

@[simp] theorem getAll_empty : empty.getAll key = [] := rfl

theorem getAll_insert (map : Sorted Values) (key : String) (values : Values) (name : String) :
    (⟨map.insert key values⟩ : Multimap).getAll name =
      if key = name then values.toList else (⟨map⟩ : Multimap).getAll name := by
  simp only [getAll, Sorted.get?_insert]
  by_cases same : key = name
  · simp [same]
  · simp [same]

theorem getAll_set (m : Multimap) (key value name : String) :
    (m.set key value).getAll name = if key = name then [value] else m.getAll name :=
  getAll_insert m.map key (.one value) name

theorem toList_push (values : Values) (value : String) : (values.push value).toList = values.toList ++ [value] := rfl

theorem getAll_add (m : Multimap) (key value name : String) :
    (m.add key value).getAll name = if key = name then m.getAll key ++ [value] else m.getAll name := by
  rw [add, getAll_insert]
  by_cases same : key = name
  · subst same
    simp only [if_true, getAll]
    cases m.map.get? key with
    | none => rfl
    | some values => exact toList_push values value
  · simp [same]

theorem getAll_delete (m : Multimap) (key name : String) :
    (m.delete key).getAll name = if name = key then [] else m.getAll name := by
  simp only [delete, getAll, Sorted.get?_erase]
  by_cases same : name = key
  · simp [same]
  · simp [same]

theorem toList_ne_nil (values : Values) : values.toList ≠ [] := by simp [Values.toList]

theorem toList_injective {one other : Values} (same : one.toList = other.toList) : one = other := by
  obtain ⟨first, rest⟩ := one
  obtain ⟨first', rest'⟩ := other
  simpa [Values.toList] using same

/-- Maps whose keys have the same values are the same. -/
theorem ext_getAll (same : ∀ key, one.getAll key = other.getAll key) : one = other := by
  have maps : one.map = other.map := by
    apply Sorted.ext_get?
    intro key
    have here := same key
    simp only [getAll] at here
    cases left : one.map.get? key with
    | none =>
      cases right : other.map.get? key with
      | none => rfl
      | some values => simp [left, right, (toList_ne_nil values).symm] at here
    | some values =>
      cases right : other.map.get? key with
      | none => simp [left, right, toList_ne_nil values] at here
      | some more =>
        simp only [left, right] at here
        rw [toList_injective here]
  obtain ⟨left⟩ := one
  obtain ⟨right⟩ := other
  cases maps
  rfl

theorem contains_iff : m.contains key = true ↔ m.getAll key ≠ [] := by
  simp only [contains, Sorted.contains, getAll]
  cases m.map.get? key with
  | none => simp
  | some values => simp [toList_ne_nil values]

theorem get?_eq_head? (m : Multimap) (key : String) : m.get? key = (m.getAll key).head? := by
  simp only [get?, getAll]
  cases m.map.get? key with
  | none => rfl
  | some values => rfl

/-! ## Pairs -/

/-- The values of a key among pairs. -/
def valuesOf (key : String) (pairs : List (String × String)) : List String :=
  (pairs.filter fun pair => pair.1 == key).map (·.2)

theorem mem_valuesOf {pairs : List (String × String)} : value ∈ valuesOf key pairs ↔ (key, value) ∈ pairs := by
  simp [valuesOf]

theorem valuesOf_append (key : String) (front back : List (String × String)) :
    valuesOf key (front ++ back) = valuesOf key front ++ valuesOf key back := by
  simp [valuesOf]

theorem valuesOf_map (key name : String) (values : List String) :
    valuesOf key (values.map (name, ·)) = if name = key then values else [] := by
  by_cases same : name = key
  · simp [valuesOf, List.filter_map, Function.comp_def, same]
  · simp [valuesOf, List.filter_map, Function.comp_def, same]

theorem getAll_ofPairs (pairs : List (String × String)) (key : String) :
    (ofPairs pairs).getAll key = valuesOf key pairs := by
  have started : ∀ pairs : List (String × String), ∀ m : Multimap,
      (pairs.foldl (fun m pair => m.add pair.1 pair.2) m).getAll key = m.getAll key ++ valuesOf key pairs := by
    intro pairs
    induction pairs with
    | nil => simp [valuesOf]
    | cons pair pairs ih =>
      obtain ⟨name, value⟩ := pair
      intro m
      rw [List.foldl_cons, ih, getAll_add]
      by_cases same : name = key
      · simp [valuesOf, same]
      · simp [valuesOf, same]
  rw [ofPairs, started, getAll_empty, List.nil_append]

theorem valuesOf_flatMap {entries : List (String × Values)} (increasing : entries.Pairwise (fun a b => a.1 < b.1))
    (key : String) :
    valuesOf key (entries.flatMap fun (name, values) => values.toList.map (name, ·)) =
      ((Sorted.find? key entries).map (·.toList)).getD [] := by
  induction entries with
  | nil => rfl
  | cons head rest ih =>
    obtain ⟨name, values⟩ := head
    obtain ⟨below, tail⟩ := List.pairwise_cons.mp increasing
    rw [List.flatMap_cons, valuesOf_append, valuesOf_map, ih tail]
    by_cases same : name = key
    · subst same
      have absent : Sorted.find? name rest = none := by
        apply Sorted.find?_eq_none_of_forall
        intro entry member equal
        exact String.lt_irrefl name (equal ▸ below entry member)
      simp [Sorted.find?, absent]
    · simp [Sorted.find?, same]

theorem valuesOf_pairs (m : Multimap) (key : String) : valuesOf key m.pairs = m.getAll key := by
  have listed : valuesOf key m.pairs = ((m.map.get? key).map (·.toList)).getD [] :=
    valuesOf_flatMap m.map.increasing key
  rw [listed, getAll]
  cases m.map.get? key with
  | none => rfl
  | some values => rfl

/-- A map is that of its pairs. -/
theorem ofPairs_pairs (m : Multimap) : ofPairs m.pairs = m := by
  apply ext_getAll
  intro key
  rw [getAll_ofPairs, valuesOf_pairs]

/-- What is paired with a key is one of its values. -/
theorem mem_pairs_iff : (key, value) ∈ m.pairs ↔ value ∈ m.getAll key := by
  rw [← mem_valuesOf, valuesOf_pairs]

end Junction.Multimap
