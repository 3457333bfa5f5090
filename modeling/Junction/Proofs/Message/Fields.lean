import Junction.Message.Header
import Junction.Message.Query
import Junction.Proofs.Data.Multimap

/-!
The five actions on the fields of a header and on the names of a query, told by the values under each key: an
action sees and changes the values of its own key alone (`getAll_modify`).
-/

namespace Junction

/-- What an action makes of the values under its key. -/
def Action.onValues (value : String) : Action → List String → List String
  | .add, values => values ++ [value]
  | .append, values => if values = [] then [] else values ++ [value]
  | .set, _ => [value]
  | .replace, values => if values = [] then [] else [value]
  | .delete, _ => []

namespace Multimap

variable {m one other : Multimap} {action : Action} {key value name : String}

/-- One action on the values of a key. -/
def modify (m : Multimap) (key value : String) : Action → Multimap
  | .add => m.add key value
  | .append => m.append key value
  | .set => m.set key value
  | .replace => m.replace key value
  | .delete => m.delete key

theorem getAll_eq_nil (absent : ¬ m.contains key = true) : m.getAll key = [] := by
  rw [contains_iff] at absent
  exact Decidable.not_not.mp absent

theorem getAll_append (m : Multimap) (key value name : String) :
    (m.append key value).getAll name =
      if key = name then Action.append.onValues value (m.getAll key) else m.getAll name := by
  by_cases present : m.contains key = true
  · have listed : m.getAll key ≠ [] := contains_iff.mp present
    simp [append, present, getAll_add, Action.onValues, listed]
  · have absent : m.getAll key = [] := getAll_eq_nil present
    by_cases same : key = name
    · subst same
      simp [append, present, Action.onValues, absent]
    · simp [append, present, same]

theorem getAll_replace (m : Multimap) (key value name : String) :
    (m.replace key value).getAll name =
      if key = name then Action.replace.onValues value (m.getAll key) else m.getAll name := by
  by_cases present : m.contains key = true
  · have listed : m.getAll key ≠ [] := contains_iff.mp present
    simp [replace, present, getAll_set, Action.onValues, listed]
  · have absent : m.getAll key = [] := getAll_eq_nil present
    by_cases same : key = name
    · subst same
      simp [replace, present, Action.onValues, absent]
    · simp [replace, present, same]

/-- An action changes the values of its key, and of no other. -/
theorem getAll_modify (m : Multimap) (action : Action) (key value name : String) :
    (m.modify key value action).getAll name =
      if key = name then action.onValues value (m.getAll key) else m.getAll name := by
  cases action with
  | add => exact getAll_add m key value name
  | append => exact getAll_append m key value name
  | set => exact getAll_set m key value name
  | replace => exact getAll_replace m key value name
  | delete =>
    rw [modify, getAll_delete]
    by_cases same : key = name
    · simp [same, Action.onValues]
    · simp [same, Ne.symm same]

/-- Maps that agree on a key still do after the same action. -/
theorem modify_agree (same : one.getAll name = other.getAll name) (action : Action) (key value : String) :
    (one.modify key value action).getAll name = (other.modify key value action).getAll name := by
  rw [getAll_modify, getAll_modify]
  by_cases here : key = name
  · rw [if_pos here, if_pos here, here, same]
  · rw [if_neg here, if_neg here, same]

theorem getAll_filter (m : Multimap) (keep : String → Bool) (name : String) :
    (m.filter keep).getAll name = if keep name = true then m.getAll name else [] := by
  simp only [filter, getAll, Sorted.get?_filter]
  by_cases kept : keep name = true
  · cases m.map.get? name <;> simp [kept, Option.filter]
  · cases m.map.get? name <;> simp [kept, Option.filter]

end Multimap

/-! ## Headers and queries -/

theorem Header.fields_modify (header : Header) (action : Action) (key value : String) :
    (header.modify action key value).fields =
      if key.isEmpty then header.fields else header.fields.modify (headerName key) value action := by
  by_cases blank : key.isEmpty = true
  · simp [modify, blank]
  · simp only [modify, blank, Bool.false_eq_true, if_false]
    cases action <;> rfl

theorem Query.values_modify (query : Query) (action : Action) (key value : String) :
    (query.modify action key value).values =
      if key.isEmpty then query.values else query.values.modify key value action := by
  by_cases blank : key.isEmpty = true
  · simp [modify, blank]
  · simp only [modify, blank, Bool.false_eq_true, if_false]
    cases action <;> rfl

theorem Header.modify_agree {one other : Header} {field : String}
    (same : one.fields.getAll field = other.fields.getAll field) (action : Action) (key value : String) :
    (one.modify action key value).fields.getAll field = (other.modify action key value).fields.getAll field := by
  rw [fields_modify, fields_modify]
  by_cases blank : key.isEmpty = true
  · rw [if_pos blank, if_pos blank, same]
  · rw [if_neg blank, if_neg blank]
    exact Multimap.modify_agree same action (headerName key) value

theorem Query.modify_agree {one other : Query} {name : String}
    (same : one.values.getAll name = other.values.getAll name) (action : Action) (key value : String) :
    (one.modify action key value).values.getAll name = (other.modify action key value).values.getAll name := by
  rw [values_modify, values_modify]
  by_cases blank : key.isEmpty = true
  · rw [if_pos blank, if_pos blank, same]
  · rw [if_neg blank, if_neg blank]
    exact Multimap.modify_agree same action key value

theorem Header.ext_getAll {one other : Header} (same : ∀ field, one.fields.getAll field = other.fields.getAll field) :
    one = other := by
  obtain ⟨left⟩ := one
  obtain ⟨right⟩ := other
  exact congrArg Header.mk (Multimap.ext_getAll same)

theorem Query.ext_getAll {one other : Query} (same : ∀ name, one.values.getAll name = other.values.getAll name) :
    one = other := by
  obtain ⟨left⟩ := one
  obtain ⟨right⟩ := other
  exact congrArg Query.mk (Multimap.ext_getAll same)

end Junction
