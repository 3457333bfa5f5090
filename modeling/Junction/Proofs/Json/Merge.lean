import Junction.Json.Edit
import Junction.Json.Merge
import Junction.Proofs.Data.Keyed

/-!
Merging records: null, and objects that have no name twice. Among them merging is associative and null changes nothing
(`merge_assoc`, `merge_null`), so that several records can be merged in any grouping. A field of the result has the values
that the records have under its name, a single one as it is and several in one list (`child?_foldl_merge`).
-/

namespace Junction.Json

variable {name : String} {base incoming third : Json} {fields more : List (String × Json)} {values : List Json}

theorem concat_assoc (first second third : Json) :
    concat (concat first second) third = concat first (concat second third) := by
  simp only [concat, itemsOf, List.append_assoc]

instance : Std.Associative concat := ⟨concat_assoc⟩

/-! ## Fields that are joined -/

theorem addField_eq_put (fields : List (String × Json)) (field : String × Json) :
    ∃ value, addField fields field = Keyed.put field.1 value fields := by
  rw [addField]
  cases Keyed.get? field.1 fields with
  | none => exact ⟨_, rfl⟩
  | some present => exact ⟨_, rfl⟩

theorem nodup_foldl_addField (once : (fields.map (·.1)).Nodup) (more : List (String × Json)) :
    ((more.foldl addField fields).map (·.1)).Nodup := by
  induction more generalizing fields with
  | nil => exact once
  | cons field more ih =>
    obtain ⟨value, put⟩ := addField_eq_put fields field
    rw [List.foldl_cons, put]
    exact ih (Keyed.nodup_names_put once field.1 value)

theorem get?_addField (fields : List (String × Json)) (field : String × Json) (name : String) :
    Keyed.get? name (addField fields field) =
      if field.1 = name then Option.merge concat (Keyed.get? name fields) (some field.2) else Keyed.get? name fields := by
  refine Keyed.get?_joined ?_ ?_ name
  · intro absent
    rw [addField, absent]
  · intro present found
    rw [addField, found]

/-- A name has what it had before and what it has among the fields that are added. -/
theorem get?_foldl_addField (once : (more.map (·.1)).Nodup) (fields : List (String × Json)) (name : String) :
    Keyed.get? name (more.foldl addField fields) = Option.merge concat (Keyed.get? name fields) (Keyed.get? name more) := by
  induction more generalizing fields with
  | nil => simp [Keyed.get?]
  | cons field more ih =>
    obtain ⟨absent, once⟩ := List.nodup_cons.mp once
    rw [List.foldl_cons, ih once, get?_addField, Keyed.get?]
    by_cases same : field.1 = name
    · have none : Keyed.get? name more = none := Keyed.get?_eq_none_iff.mpr (same ▸ absent)
      rw [if_pos same, if_pos same, none, Option.merge_none_right]
    · rw [if_neg same, if_neg same]

theorem names_foldl_addField {before : List String} (listed : fields.map (·.1) = before.eraseDups)
    (more : List (String × Json)) :
    (more.foldl addField fields).map (·.1) = (before ++ more.map (·.1)).eraseDups :=
  Keyed.names_foldl_put addField_eq_put listed more

/-! ## Records -/

/-- Null, or an object that has no name twice. -/
inductive IsRecord : Json → Prop where
  | null : IsRecord .null
  | object {fields : List (String × Json)} (once : (fields.map (·.1)).Nodup) : IsRecord (.object fields)

theorem null_merge (value : Json) : merge .null value = value := by
  cases value <;> rfl

theorem merge_null (value : Json) : value.merge .null = value := by
  cases value <;> rfl

theorem IsRecord.merge (one : IsRecord base) (other : IsRecord incoming) : IsRecord (base.merge incoming) := by
  cases one with
  | null =>
    rw [null_merge]
    exact other
  | object once =>
    cases other with
    | null => exact .object once
    | @object more _ => exact .object (nodup_foldl_addField once more)

/-- A field of two records that are merged has the values of both. -/
theorem child?_merge (one : IsRecord base) (other : IsRecord incoming) (name : String) :
    (base.merge incoming).child? (.key name) =
      Option.merge concat (base.child? (.key name)) (incoming.child? (.key name)) := by
  cases one with
  | null =>
    rw [null_merge]
    exact (Option.merge_none_left ..).symm
  | @object fields once =>
    cases other with
    | null =>
      rw [merge_null]
      exact (Option.merge_none_right ..).symm
    | object once => exact get?_foldl_addField once fields name

/-- Records can be merged in any grouping: names keep their order, and values theirs. -/
theorem merge_assoc (first : IsRecord base) (second : IsRecord incoming) (last : IsRecord third) :
    (base.merge incoming).merge third = base.merge (incoming.merge third) := by
  cases first with
  | null => rw [null_merge, null_merge]
  | @object fields once =>
    cases second with
    | null => rw [null_merge, merge_null]
    | @object more once' =>
      cases last with
      | null => rw [merge_null, merge_null]
      | @object rest once'' =>
        have own : fields.map (·.1) = (fields.map (·.1)).eraseDups := (eraseDups_of_nodup once).symm
        have added : more.map (·.1) = (more.map (·.1)).eraseDups := (eraseDups_of_nodup once').symm
        refine congrArg Json.object (Keyed.ext_get? ?_ (nodup_foldl_addField (nodup_foldl_addField once more) rest) ?_)
        · rw [names_foldl_addField (names_foldl_addField own more), names_foldl_addField own,
            names_foldl_addField added, eraseDups_append_eraseDups, List.append_assoc]
        · intro name
          rw [get?_foldl_addField once'', get?_foldl_addField once', get?_foldl_addField (nodup_foldl_addField once' rest),
            get?_foldl_addField once'']
          exact Std.Associative.assoc _ _ _

/-! ## Several records -/

theorem isRecord_foldl_merge (records : ∀ value ∈ values, IsRecord value) (started : IsRecord base) :
    IsRecord (values.foldl merge base) := by
  induction values generalizing base with
  | nil => exact started
  | cons value values ih =>
    rw [List.forall_mem_cons] at records
    exact ih records.2 (started.merge records.1)

/-- Records that are merged one after another can be merged in two parts. -/
theorem foldl_merge_append {front back : List Json} (before : ∀ value ∈ front, IsRecord value)
    (after : ∀ value ∈ back, IsRecord value) :
    (front ++ back).foldl merge .null = (front.foldl merge .null).merge (back.foldl merge .null) := by
  induction back using List.reverseRecOn with
  | nil => rw [List.append_nil, List.foldl_nil, merge_null]
  | append_singleton back value ih =>
    rw [List.forall_mem_append, List.forall_mem_singleton] at after
    have split : (back ++ [value]).foldl merge .null = (back.foldl merge .null).merge value := List.foldl_append
    rw [← List.append_assoc, List.foldl_append, ih after.1, split]
    exact merge_assoc (isRecord_foldl_merge before .null) (isRecord_foldl_merge after.1 .null) after.2

/-- A value that is made of several in their order, merged in any grouping and with nulls among them. -/
inductive Merges : List Json → Json → Prop where
  | null : Merges [] .null
  | one (value : Json) : Merges [value] value
  | join {front back : List Json} {base incoming : Json} (before : Merges front base) (after : Merges back incoming) :
    Merges (front ++ back) (base.merge incoming)

/-- The grouping makes no difference to records. -/
theorem eq_of_merges {whole : Json} (merges : Merges values whole) (records : ∀ value ∈ values, IsRecord value) :
    whole = values.foldl merge .null := by
  induction merges with
  | null => rfl
  | one value => exact (null_merge value).symm
  | join _ _ front back =>
    rw [List.forall_mem_append] at records
    rw [front records.1, back records.2, foldl_merge_append records.1 records.2]

/-- What the values of one field are together: a single one as it is, several in one list. -/
def gathered : List Json → Option Json
  | [] => none
  | [value] => some value
  | values => some (.array (values.flatMap itemsOf))

theorem gathered_concat (values : List Json) (value : Json) :
    gathered (values ++ [value]) = Option.merge concat (gathered values) (some value) := by
  match values with
  | [] => rfl
  | [first] => simp [gathered, Option.merge, concat]
  | first :: second :: rest =>
    simp [gathered, Option.merge, concat, itemsOf, List.flatMap_append]

/-- A field of merged records has the values that they have under its name, in their order. -/
theorem child?_foldl_merge (records : ∀ value ∈ values, IsRecord value) (name : String) :
    (values.foldl merge .null).child? (.key name) = gathered (values.filterMap (child? · (.key name))) := by
  induction values using List.reverseRecOn with
  | nil => rfl
  | append_singleton values value ih =>
    rw [List.forall_mem_append, List.forall_mem_singleton] at records
    rw [List.foldl_append, List.foldl_cons, List.foldl_nil,
      child?_merge (isRecord_foldl_merge records.1 .null) records.2, ih records.1, List.filterMap_append]
    cases found : value.child? (.key name) with
    | none => simp [found]
    | some inner => simp [found, gathered_concat]

end Junction.Json
