import Junction.Proofs.Engine.Aggregation
import Junction.Proofs.Json.Merge
import Junction.Proofs.Message.Decoded

/-!
Entries that all have a group: the document has the groups of those with a body, in the order in which they come first, and
under each one its bodies, merged from the first to the last (`object_groups`). Bodies that are null or objects can be
merged in any grouping, and each of their fields collects its values in one list.
-/

namespace Junction

namespace Json

/-- Values merged from the first to the last. -/
def merged? : List Json → Option Json
  | [] => none
  | first :: rest => some (rest.foldl merge first)

theorem merged?_concat (values : List Json) (value : Json) :
    merged? (values ++ [value]) = Option.merge merge (merged? values) (some value) := by
  cases values with
  | nil => rfl
  | cons first rest =>
    rw [List.cons_append, merged?, merged?, List.foldl_append]
    rfl

/-- Several values are merged into one: it does not depend on how they are grouped, and a field of it has the values that
they have under its name, a single one as it is and several in one list. -/
structure Unites (values : List Json) (whole : Json) : Prop where
  assoc : ∀ first ∈ values, ∀ second ∈ values, ∀ third ∈ values,
    (first.merge second).merge third = first.merge (second.merge third)
  null : ∀ value ∈ values, merge .null value = value ∧ value.merge .null = value
  grouping : ∀ other, Merges values other → other = whole
  field : ∀ name, whole.child? (.key name) = gathered (values.filterMap (·.child? (.key name)))

theorem unites_of_records {first : Json} {rest : List Json} (records : ∀ value ∈ first :: rest, IsRecord value) :
    Unites (first :: rest) (rest.foldl merge first) := by
  have started : rest.foldl merge first = (first :: rest).foldl merge .null := by
    rw [List.foldl_cons, null_merge]
  refine ⟨?_, fun value _ => ⟨null_merge value, merge_null value⟩, ?_, ?_⟩
  · intro one listed two listed' three listed''
    exact merge_assoc (records one listed) (records two listed') (records three listed'')
  · intro other merges
    rw [started, eq_of_merges merges records]
  · intro name
    rw [started, child?_foldl_merge records]

end Json

namespace Aggregate

variable {entries : List Entry}

/-- The groups of the entries that have a body, in their order. -/
def groups (entries : List Entry) : List String :=
  entries.filterMap fun entry => if entry.body.isSome then entry.group? else none

/-- The values of the bodies that have a group, in their order. -/
def bodiesOf (group : String) (entries : List Entry) : List Json :=
  entries.filterMap fun entry => if entry.group? = some group then entry.body.map Body.value else none

theorem addToGroup_eq_put (group : String) (fields : List (String × Json)) (value : Json) :
    ∃ changed, addToGroup group fields value = Keyed.put group changed fields := by
  rw [addToGroup]
  cases Keyed.get? group fields with
  | none => exact ⟨_, rfl⟩
  | some present => exact ⟨_, rfl⟩

theorem get?_addToGroup (group : String) (fields : List (String × Json)) (value : Json) (name : String) :
    Keyed.get? name (addToGroup group fields value) =
      if group = name then Option.merge Json.merge (Keyed.get? name fields) (some value) else Keyed.get? name fields := by
  refine Keyed.get?_joined ?_ ?_ name
  · intro absent
    rw [addToGroup, absent]
  · intro present found
    rw [addToGroup, found]

/-- The fields of a document that entries with groups have made. -/
structure Collected (entries : List Entry) (fields : List (String × Json)) : Prop where
  names : fields.map (·.1) = (groups entries).eraseDups
  values : ∀ group, Keyed.get? group fields = Json.merged? (bodiesOf group entries)

theorem collected_addEntry {before : List Entry} {fields : List (String × Json)} (collected : Collected before fields)
    {entry : Entry} (grouped : entry.group?.isSome = true) (position : Nat) :
    Collected (before ++ [entry]) (addEntry fields position entry) := by
  obtain ⟨group, found⟩ := Option.isSome_iff_exists.mp grouped
  rw [addEntry]
  cases given : entry.body with
  | none =>
    constructor
    · rw [collected.names]
      simp [groups, given]
    · intro name
      rw [collected.values]
      simp [bodiesOf, given]
  | some body =>
    rw [found]
    change Collected _ (addToGroup group fields body.value)
    constructor
    · obtain ⟨changed, put⟩ := addToGroup_eq_put group fields body.value
      have listed : groups (before ++ [entry]) = groups before ++ [group] := by simp [groups, given, found]
      rw [put, Keyed.names_put, collected.names, listed, eraseDups_concat]
    · intro name
      rw [get?_addToGroup, collected.values]
      by_cases same : group = name
      · have bodies : bodiesOf name (before ++ [entry]) = bodiesOf name before ++ [body.value] := by
          simp [bodiesOf, given, found, same]
        rw [if_pos same, bodies, Json.merged?_concat]
      · have bodies : bodiesOf name (before ++ [entry]) = bodiesOf name before := by
          simp [bodiesOf, found, same]
        rw [if_neg same, bodies]

theorem collected_fieldsFrom {before : List Entry} {fields : List (String × Json)} (collected : Collected before fields)
    (grouped : ∀ entry ∈ entries, entry.group?.isSome = true) (position : Nat) :
    Collected (before ++ entries) (fieldsFrom position fields entries) := by
  induction entries generalizing before fields position with
  | nil =>
    rw [fieldsFrom, List.append_nil]
    exact collected
  | cons entry rest ih =>
    obtain ⟨first, grouped⟩ := List.forall_mem_cons.mp grouped
    have next := ih (collected_addEntry collected first position) grouped (position + 1)
    rwa [List.append_assoc, List.singleton_append] at next

theorem isRecord_of_body {group : String} {value : Json} (member : value ∈ bodiesOf group entries)
    (plain : value = .null ∨ value.isObject = true) : value.IsRecord := by
  obtain ⟨entry, _, shown⟩ := List.mem_filterMap.mp member
  split at shown
  · obtain ⟨body, _, rfl⟩ := Option.map_eq_some_iff.mp shown
    have distinct := body.distinct_value
    rcases plain with null | object
    · rw [null]
      exact .null
    · cases same : body.value with
      | object fields =>
        rw [same, Json.distinct_object] at distinct
        exact .object distinct.1
      | null => exact .null
      | bool | number | text | array =>
        rw [same] at object
        cases object
  · cases shown

/-- The document of entries that all have a group: its names are the groups of those with a body, each where it comes first,
and under a group stand its bodies, merged from the first to the last. -/
theorem object_groups (grouped : ∀ entry ∈ entries, entry.group?.isSome = true) :
    ∃ fields, object entries = .object fields ∧ fields.map (·.1) = (groups entries).eraseDups ∧
      ∀ group first rest, bodiesOf group entries = first :: rest →
        Keyed.get? group fields = some (rest.foldl Json.merge first) ∧
          ((∀ value ∈ first :: rest, value = .null ∨ value.isObject = true) →
            Json.Unites (first :: rest) (rest.foldl Json.merge first)) := by
  have empty : Collected [] [] := ⟨rfl, fun _ => rfl⟩
  obtain ⟨names, values⟩ := collected_fieldsFrom empty grouped 0
  refine ⟨fieldsFrom 0 [] entries, rfl, names, ?_⟩
  intro group first rest bodies
  refine ⟨?_, ?_⟩
  · rw [values, List.nil_append, bodies, Json.merged?]
  · intro plain
    apply Json.unites_of_records
    intro value member
    exact isRecord_of_body (bodies ▸ member) (plain value member)

/-- A reply under a group, whose body is the JSON text of a value. -/
def givingTo (group : String) (value : Json) : Entry :=
  ⟨{ response := { group := some group } }, 200, ∅, some (.ofJson value), false⟩

/-- Three replies, of which the first and the last share a group. -/
def sharing : List Entry := [givingTo "user" numbered, givingTo "orders" listed, givingTo "user" numbered]

theorem object_groups_sharing : ∃ fields, object sharing = .object fields ∧ fields.map (·.1) = ["user", "orders"] ∧
    Keyed.get? "user" fields = some (.object [("response1", .array [Json.ofNat 5, Json.ofNat 5])]) ∧
    Json.Unites [numbered, numbered] (.object [("response1", .array [Json.ofNat 5, Json.ofNat 5])]) := by
  have read : (Body.ofJson numbered).value = numbered :=
    Body.value_ofJson (by decide +kernel) (Json.read?_render ⟨⟨by decide, by decide⟩, trivial⟩ rfl)
  have grouped : ∀ entry ∈ sharing, entry.group?.isSome = true := by decide
  obtain ⟨fields, whole, names, values⟩ := object_groups grouped
  have bodies : bodiesOf "user" sharing = [(Body.ofJson numbered).value, (Body.ofJson numbered).value] := rfl
  rw [read] at bodies
  obtain ⟨found, unites⟩ := values _ _ _ bodies
  refine ⟨fields, whole, names, found, unites ?_⟩
  exact List.forall_mem_cons.mpr ⟨.inr rfl, List.forall_mem_singleton.mpr (.inr rfl)⟩

end Aggregate
end Junction
