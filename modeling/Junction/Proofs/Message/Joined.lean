import Junction.Message.Header
import Junction.Proofs.Data.Keyed
import Junction.Proofs.Data.Multimap

/-!
Headers joined into one. Joining adds what is not yet there, so that a field has each of its values once, in the
order in which they came: `before.eraseDups`, where `before` are all that came.
-/

namespace Junction

namespace Values

theorem toList_pushNew (values : Values) (value : String) :
    (values.pushNew value).toList = values.toList ++ [value].removeAll values.toList := by
  by_cases there : value ∈ values.toList
  · simp [pushNew, List.removeAll, there]
  · have added : values.pushNew value = values.push value := by simp [pushNew, there]
    rw [added, Multimap.toList_push]
    simp [List.removeAll, there]

theorem toList_foldl_pushNew (values : Values) (added : List String) :
    (added.foldl pushNew values).toList = values.toList ++ (added.removeAll values.toList).eraseDups := by
  induction added using List.reverseRecOn with
  | nil => simp [List.removeAll]
  | append_singleton added value ih =>
    rw [List.foldl_append, List.foldl_cons, List.foldl_nil, toList_pushNew, ih, List.append_assoc]
    by_cases there : value ∈ values.toList
    · simp [List.removeAll, there]
    · have apart : (added ++ [value]).removeAll values.toList = added.removeAll values.toList ++ [value] := by
        simp [List.removeAll, there]
      rw [apart, eraseDups_concat]
      simp [List.removeAll, List.filter_cons, there]

theorem toList_union (values more : Values) :
    (values.union more).toList = values.toList ++ (more.toList.removeAll values.toList).eraseDups :=
  toList_foldl_pushNew values more.toList

theorem toList_distinct (values : Values) : values.distinct.toList = values.toList.eraseDups := by
  have first : (one values.first).toList = [values.first] := rfl
  rw [distinct, toList_union, first, toList, List.eraseDups_cons]
  simp [List.removeAll, beq_eq_decide]

theorem eraseDups_eq_single {value : String} {more : List String} :
    (value :: more).eraseDups = [value] ↔ ∀ other ∈ more, other = value := by
  rw [List.eraseDups_cons]
  constructor
  · intro alone other member
    refine Decidable.byContradiction fun different => ?_
    have kept : other ∈ more.filter fun listed => !listed == value := by simp [member, different]
    rw [← List.mem_eraseDups, (List.cons.inj alone).2] at kept
    cases kept
  · intro same
    have none : more.filter (fun listed => !listed == value) = [] := by
      apply List.filter_eq_nil_iff.mpr
      intro other member
      simp [same other member]
    rw [none, List.eraseDups_nil]

end Values

namespace Multimap

variable {m : Multimap} {key name : String}

theorem getAll_union (m : Multimap) (key : String) (more : Values) :
    (m.union key more).getAll key = m.getAll key ++ (more.toList.removeAll (m.getAll key)).eraseDups := by
  rw [union, getAll_insert, if_pos rfl, getAll]
  cases m.map.get? key with
  | none =>
    have all : more.toList.removeAll [] = more.toList := by simp [List.removeAll]
    rw [List.nil_append, all]
    exact Values.toList_distinct more
  | some values => exact Values.toList_union values more

theorem getAll_union_of_ne (different : key ≠ name) (more : Values) : (m.union key more).getAll name = m.getAll name := by
  rw [union, getAll_insert, if_neg different]

end Multimap

namespace Header

variable {header other : Header} {field : String} {before : List String}

/-- A field that describes the content, which is no other message's. -/
def IsOfContent (field : String) : Prop := field = contentLength ∨ field = contentType

instance : DecidablePred IsOfContent := fun field => inferInstanceAs (Decidable (field = _ ∨ field = _))

theorem getAll_join_of_ne {fields : Multimap} {entry : String × Values} (different : entry.1 ≠ field) :
    (join fields entry).getAll field = fields.getAll field := by
  unfold join
  split
  · rfl
  · exact Multimap.getAll_union_of_ne different entry.2

theorem getAll_foldl_join_of_fixed {entries : List (String × Values)}
    (fixed : ∀ entry ∈ entries, ∀ fields, (join fields entry).getAll field = fields.getAll field) (fields : Multimap) :
    (entries.foldl join fields).getAll field = fields.getAll field := by
  induction entries generalizing fields with
  | nil => rfl
  | cons entry rest ih =>
    rw [List.foldl_cons, ih fun listed member => fixed listed (List.mem_cons_of_mem _ member)]
    exact fixed entry List.mem_cons_self fields

theorem getAll_foldl_join {entries : List (String × Values)} (increasing : entries.Pairwise (fun a b => a.1 < b.1))
    (shared : ¬ IsOfContent field) (fields : Multimap) :
    (entries.foldl join fields).getAll field = fields.getAll field ++
      ((((Sorted.find? field entries).map (·.toList)).getD []).removeAll (fields.getAll field)).eraseDups := by
  induction entries generalizing fields with
  | nil => simp [Sorted.find?, List.removeAll]
  | cons entry rest ih =>
    obtain ⟨name, values⟩ := entry
    obtain ⟨below, tail⟩ := List.pairwise_cons.mp increasing
    rw [List.foldl_cons]
    by_cases here : name = field
    · subst here
      -- Keys increase, so that no later field has this name again.
      have later : ∀ entry ∈ rest, ∀ fields, (join fields entry).getAll name = fields.getAll name := by
        intro entry member fields
        refine getAll_join_of_ne fun same => ?_
        exact String.lt_irrefl name (same ▸ below entry member)
      have joined : join fields (name, values) = fields.union name values := if_neg shared
      rw [getAll_foldl_join_of_fixed later, joined, Multimap.getAll_union]
      simp [Sorted.find?]
    · rw [ih tail, getAll_join_of_ne here]
      simp [Sorted.find?, here]

/-- A header joined to another adds the values that are not yet there, each once. -/
theorem getAll_aggregate_new (shared : ¬ IsOfContent field) (header other : Header) :
    (header.aggregate other).fields.getAll field = header.fields.getAll field ++
      ((other.fields.getAll field).removeAll (header.fields.getAll field)).eraseDups := by
  have found : ((Sorted.find? field other.fields.map.entries).map (·.toList)).getD [] = other.fields.getAll field := by
    rw [Multimap.getAll, Sorted.get?]
    cases Sorted.find? field other.fields.map.entries with
    | none => rfl
    | some values => rfl
  rw [aggregate, ← found]
  exact getAll_foldl_join other.fields.map.increasing shared header.fields

/-- A header joined to another adds the values that are not yet there. -/
theorem getAll_aggregate (shared : ¬ IsOfContent field) (listed : header.fields.getAll field = before.eraseDups)
    (other : Header) :
    (header.aggregate other).fields.getAll field = (before ++ other.fields.getAll field).eraseDups := by
  have same : (other.fields.getAll field).removeAll before.eraseDups = (other.fields.getAll field).removeAll before := by
    simp only [List.removeAll, List.elem_eq_mem, List.mem_eraseDups]
  rw [getAll_aggregate_new shared, listed, same, List.eraseDups_append]

/-- Length and type of the content are never those of a header that joins. -/
theorem getAll_aggregate_ofContent (own : IsOfContent field) (header other : Header) :
    (header.aggregate other).fields.getAll field = header.fields.getAll field := by
  refine getAll_foldl_join_of_fixed ?_ header.fields
  intro entry _ fields
  by_cases here : entry.1 = field
  · have ofContent : entry.1 = contentLength ∨ entry.1 = contentType := here ▸ own
    rw [join, if_pos ofContent]
  · exact getAll_join_of_ne here

/-! ## Headers joined one after another -/

theorem getAll_foldl_aggregate (shared : ¬ IsOfContent field) (listed : header.fields.getAll field = before.eraseDups)
    (headers : List Header) :
    (headers.foldl aggregate header).fields.getAll field =
      (before ++ headers.flatMap fun other => other.fields.getAll field).eraseDups := by
  induction headers generalizing header before with
  | nil => simpa using listed
  | cons other rest ih =>
    rw [List.foldl_cons, ih (getAll_aggregate shared listed other), List.flatMap_cons, List.append_assoc]

theorem getAll_foldl_aggregate_ofContent (own : IsOfContent field) (header : Header) (headers : List Header) :
    (headers.foldl aggregate header).fields.getAll field = header.fields.getAll field := by
  induction headers generalizing header with
  | nil => rfl
  | cons other rest ih => rw [List.foldl_cons, ih, getAll_aggregate_ofContent own]

end Header
end Junction
