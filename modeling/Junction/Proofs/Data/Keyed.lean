import Junction.Data.Keyed
import Mathlib.Data.List.Dedup
import Mathlib.Data.List.Induction

/-!
Entries under names: where the first entry of a name stands (`exists_of_get?`), and that putting changes no other one.
Entries that are put one after another stay as they are when their names are distinct, and get fewer when not.
-/

namespace Junction

/-- A list with each value once, and one more: it comes last, unless it is there already. -/
theorem eraseDups_concat (before : List String) (value : String) :
    (before ++ [value]).eraseDups = before.eraseDups ++ [value].removeAll before.eraseDups := by
  have same : [value].removeAll before.eraseDups = [value].removeAll before := by
    simp only [List.removeAll, List.elem_eq_mem, List.mem_eraseDups]
  have single : ([value].removeAll before).eraseDups = [value].removeAll before := by
    by_cases there : value ∈ before
    · simp [List.removeAll, there]
    · simp [List.removeAll, there, List.eraseDups_cons]
  rw [List.eraseDups_append, single, same]

theorem eraseDups_of_nodup {values : List String} (once : values.Nodup) : values.eraseDups = values := by
  induction values using List.reverseRecOn with
  | nil => rfl
  | append_singleton values value ih =>
    obtain ⟨front, _, apart⟩ := List.nodup_append.mp once
    have absent : value ∉ values := fun member => apart value member value List.mem_cons_self rfl
    rw [eraseDups_concat, ih front]
    simp [List.removeAll, absent]

/-- Behind other values it makes no difference whether repetitions were left out before. -/
theorem eraseDups_append_eraseDups (front back : List String) :
    (front ++ back.eraseDups).eraseDups = (front ++ back).eraseDups := by
  induction back using List.reverseRecOn with
  | nil => rfl
  | append_singleton back value ih =>
    have whole := eraseDups_concat (front ++ back) value
    rw [← ih] at whole
    rw [eraseDups_concat back, ← List.append_assoc front back, whole]
    by_cases there : value ∈ back
    · simp [List.removeAll, there]
    · have apart : [value].removeAll back.eraseDups = [value] := by simp [List.removeAll, there]
      rw [apart, ← List.append_assoc, eraseDups_concat]

namespace Keyed

variable {α : Type} {name : String} {value : α} {entries front : List (String × α)}

theorem get?_eq_none_iff : get? name entries = none ↔ name ∉ entries.map (·.1) := by
  induction entries with
  | nil => simp [get?]
  | cons entry entries ih =>
    obtain ⟨key, found⟩ := entry
    by_cases same : key = name
    · simp [get?, same]
    · simp [get?, same, ih, Ne.symm same]

theorem contains_iff : contains name entries = true ↔ name ∈ entries.map (·.1) := by
  rw [contains, Option.isSome_iff_ne_none, ne_eq, get?_eq_none_iff, not_not]

theorem exists_of_get? (found : get? name entries = some value) :
    ∃ front back, name ∉ front.map (·.1) ∧ entries = front ++ (name, value) :: back := by
  induction entries with
  | nil => cases found
  | cons entry entries ih =>
    obtain ⟨key, first⟩ := entry
    by_cases same : key = name
    · rw [get?, if_pos same] at found
      cases found
      exact ⟨[], entries, List.not_mem_nil, by rw [same, List.nil_append]⟩
    · rw [get?, if_neg same] at found
      obtain ⟨front, back, absent, rfl⟩ := ih found
      refine ⟨(key, first) :: front, back, ?_, rfl⟩
      simp only [List.map_cons, List.mem_cons, not_or]
      exact ⟨Ne.symm same, absent⟩

theorem get?_of_first (absent : name ∉ front.map (·.1)) (value : α) (back : List (String × α)) :
    get? name (front ++ (name, value) :: back) = some value := by
  induction front with
  | nil => exact if_pos rfl
  | cons entry front ih =>
    obtain ⟨key, old⟩ := entry
    simp only [List.map_cons, List.mem_cons, not_or] at absent
    rw [List.cons_append, get?, if_neg (Ne.symm absent.1), ih absent.2]

/-- Of entries with distinct names, each one is found. -/
theorem get?_of_mem (distinct : (entries.map (·.1)).Nodup) (member : (name, value) ∈ entries) :
    get? name entries = some value := by
  obtain ⟨front, back, rfl⟩ := List.append_of_mem member
  rw [List.map_append, List.map_cons] at distinct
  apply get?_of_first
  intro before
  exact (List.nodup_append.mp distinct).2.2 name before name List.mem_cons_self rfl

theorem get?_append (name : String) (front back : List (String × α)) :
    get? name (front ++ back) = (get? name front).or (get? name back) := by
  induction front with
  | nil => rfl
  | cons entry front ih =>
    obtain ⟨key, value⟩ := entry
    by_cases same : key = name
    · simp [get?, same]
    · simp [get?, same, ih]

theorem put_append (absent : name ∉ front.map (·.1)) (value : α) (entries : List (String × α)) :
    put name value (front ++ entries) = front ++ put name value entries := by
  induction front with
  | nil => rfl
  | cons entry front ih =>
    obtain ⟨key, old⟩ := entry
    simp only [List.map_cons, List.mem_cons, not_or] at absent
    rw [List.cons_append, put, if_neg (Ne.symm absent.1), ih absent.2, List.cons_append]

theorem put_of_absent (absent : name ∉ entries.map (·.1)) (value : α) :
    put name value entries = entries ++ [(name, value)] := by
  have last := put_append absent value []
  rwa [List.append_nil] at last

theorem put_of_first (absent : name ∉ front.map (·.1)) (value old : α) (back : List (String × α)) :
    put name value (front ++ (name, old) :: back) = front ++ (name, value) :: back := by
  rw [put_append absent, put, if_pos rfl]

theorem erase_of_first (absent : name ∉ front.map (·.1)) (value : α) (back : List (String × α)) :
    erase name (front ++ (name, value) :: back) = front ++ back := by
  induction front with
  | nil => exact if_pos rfl
  | cons entry front ih =>
    obtain ⟨key, old⟩ := entry
    simp only [List.map_cons, List.mem_cons, not_or] at absent
    rw [List.cons_append, erase, if_neg (Ne.symm absent.1), ih absent.2, List.cons_append]

/-- Putting adds a last entry, or changes the value of the first entry with the name. -/
theorem put_cases (name : String) (value : α) (entries : List (String × α)) :
    (name ∉ entries.map (·.1) ∧ put name value entries = entries ++ [(name, value)]) ∨
      ∃ front old back, name ∉ front.map (·.1) ∧ entries = front ++ (name, old) :: back ∧
        put name value entries = front ++ (name, value) :: back := by
  cases found : get? name entries with
  | none =>
    have absent := get?_eq_none_iff.mp found
    exact .inl ⟨absent, put_of_absent absent value⟩
  | some old =>
    obtain ⟨front, back, absent, rfl⟩ := exists_of_get? found
    exact .inr ⟨front, old, back, absent, rfl, put_of_first absent value old back⟩

theorem get?_put (name other : String) (value : α) (entries : List (String × α)) :
    get? other (put name value entries) = if name = other then some value else get? other entries := by
  rcases put_cases name value entries with ⟨absent, put⟩ | ⟨front, old, back, absent, rfl, put⟩
  · rw [put, get?_append, get?, get?]
    by_cases same : name = other
    · subst same
      rw [get?_eq_none_iff.mpr absent, Option.none_or, if_pos rfl]
    · rw [if_neg same, if_neg same, Option.or_none]
  · rw [put, get?_append, get?_append, get?, get?]
    by_cases same : name = other
    · subst same
      rw [get?_eq_none_iff.mpr absent, Option.none_or, if_pos rfl, if_pos rfl]
    · rw [if_neg same, if_neg same, if_neg same]

/-- What stands under a name after a value was joined to the one there, or put where there was none. -/
theorem get?_joined {join : α → α → α} {key : String} {joined : List (String × α)}
    (added : get? key entries = none → joined = put key value entries)
    (changed : ∀ present, get? key entries = some present → joined = put key (join present value) entries) (name : String) :
    get? name joined = if key = name then Option.merge join (get? name entries) (some value) else get? name entries := by
  by_cases same : key = name
  · subst same
    rw [if_pos rfl]
    cases found : get? key entries with
    | none => rw [added found, get?_put, if_pos rfl, Option.merge_none_left]
    | some present => rw [changed present found, get?_put, if_pos rfl, Option.merge_some_some]
  · rw [if_neg same]
    cases found : get? key entries with
    | none => rw [added found, get?_put, if_neg same]
    | some present => rw [changed present found, get?_put, if_neg same]

theorem names_put (name : String) (value : α) (entries : List (String × α)) :
    (put name value entries).map (·.1) = entries.map (·.1) ++ [name].removeAll (entries.map (·.1)) := by
  rcases put_cases name value entries with ⟨absent, put⟩ | ⟨front, old, back, _, rfl, put⟩
  · rw [put, List.map_append, List.map_singleton]
    simp only [List.removeAll, List.elem_eq_mem, absent, decide_false, Bool.not_false, List.filter_cons_of_pos,
      List.filter_nil]
  · simp [put, List.removeAll]

/-- Entries that are put one after another come behind those that are there, each name once and where it came first. -/
theorem names_foldl_put {β : Type} {step : List (String × α) → β → List (String × α)} {nameOf : β → String}
    (puts : ∀ entries item, ∃ value, step entries item = put (nameOf item) value entries) {before : List String}
    (listed : entries.map (·.1) = before.eraseDups) (items : List β) :
    (items.foldl step entries).map (·.1) = (before ++ items.map nameOf).eraseDups := by
  induction items generalizing entries before with
  | nil => rw [List.foldl_nil, List.map_nil, List.append_nil, listed]
  | cons item items ih =>
    obtain ⟨value, stepped⟩ := puts entries item
    have next : (step entries item).map (·.1) = (before ++ [nameOf item]).eraseDups := by
      rw [stepped, names_put, listed, eraseDups_concat]
    rw [List.foldl_cons, ih next, List.map_cons, List.append_assoc, List.singleton_append]

theorem mem_names_put (name other : String) (value : α) (entries : List (String × α)) :
    other ∈ (put name value entries).map (·.1) ↔ other = name ∨ other ∈ entries.map (·.1) := by
  rcases put_cases name value entries with ⟨_, put⟩ | ⟨front, old, back, _, rfl, put⟩
  · rw [put, List.map_append, List.mem_append, or_comm, List.map_singleton, List.mem_singleton]
  · simp only [put, List.map_append, List.map_cons, List.mem_append, List.mem_cons]
    tauto

theorem nodup_names_put (distinct : (entries.map (·.1)).Nodup) (name : String) (value : α) :
    ((put name value entries).map (·.1)).Nodup := by
  rcases put_cases name value entries with ⟨absent, put⟩ | ⟨front, old, back, _, rfl, put⟩
  · rw [put, List.map_append, List.nodup_append]
    refine ⟨distinct, List.nodup_singleton _, ?_⟩
    rintro key member _ last rfl
    rw [List.map_singleton, List.mem_singleton] at last
    rw [last] at member
    exact absent member
  · rw [put]
    simpa only [List.map_append, List.map_cons] using distinct

theorem forall_put {P : α → Prop} (each : ∀ entry ∈ entries, P entry.2) (holds : P value) (name : String) :
    ∀ entry ∈ put name value entries, P entry.2 := by
  rcases put_cases name value entries with ⟨_, put⟩ | ⟨front, old, back, _, rfl, put⟩
  · rw [put, List.forall_mem_append, List.forall_mem_singleton]
    exact ⟨each, holds⟩
  · rw [List.forall_mem_append, List.forall_mem_cons] at each
    rw [put, List.forall_mem_append, List.forall_mem_cons]
    exact ⟨each.1, holds, each.2.2⟩

/-- Entries with the same distinct names in one order, and the same value under each, are the same. -/
theorem ext_get? {one other : List (String × α)} (names : one.map (·.1) = other.map (·.1))
    (distinct : (one.map (·.1)).Nodup) (same : ∀ name, get? name one = get? name other) : one = other := by
  induction one generalizing other with
  | nil => exact (List.map_eq_nil_iff.mp names.symm).symm
  | cons entry one ih =>
    obtain ⟨key, value⟩ := entry
    cases other with
    | nil => cases names
    | cons entry' other =>
      obtain ⟨key', value'⟩ := entry'
      obtain ⟨keys, later⟩ := List.cons.inj names
      obtain ⟨once, distinct⟩ := List.nodup_cons.mp distinct
      cases (show key = key' from keys)
      have here := same key
      rw [get?, if_pos rfl, get?, if_pos rfl] at here
      cases here
      refine congrArg _ (ih later distinct fun name => ?_)
      by_cases first : key = name
      · subst first
        rw [get?_eq_none_iff.mpr once, get?_eq_none_iff.mpr (later ▸ once)]
      · have there := same name
        rwa [get?, if_neg first, get?, if_neg first] at there

/-- Entries with distinct names are put as they are. -/
theorem ofList_of_nodup (distinct : (entries.map (·.1)).Nodup) : ofList entries = entries := by
  have folded : ∀ kept : List (String × α), ((kept ++ entries).map (·.1)).Nodup →
      entries.foldl (fun kept entry => put entry.1 entry.2 kept) kept = kept ++ entries := by
    clear distinct
    induction entries with
    | nil => intro kept _; rw [List.foldl_nil, List.append_nil]
    | cons entry entries ih =>
      intro kept distinct
      have absent : entry.1 ∉ kept.map (·.1) := by
        rw [List.map_append, List.map_cons] at distinct
        intro member
        exact (List.nodup_append.mp distinct).2.2 entry.1 member entry.1 List.mem_cons_self rfl
      rw [List.foldl_cons, put_of_absent absent, ih, List.append_assoc, List.singleton_append]
      rwa [List.append_assoc, List.singleton_append]
  exact folded [] distinct

theorem ofList_concat (entries : List (String × α)) (entry : String × α) :
    ofList (entries ++ [entry]) = put entry.1 entry.2 (ofList entries) := by
  rw [ofList, List.foldl_append]
  rfl

theorem mem_names_ofList : name ∈ (ofList entries).map (·.1) ↔ name ∈ entries.map (·.1) := by
  induction entries using List.reverseRecOn with
  | nil => exact Iff.rfl
  | append_singleton entries entry ih =>
    rw [ofList_concat, mem_names_put, ih, List.map_append, List.mem_append, List.map_singleton, List.mem_singleton, or_comm]

theorem nodup_names_ofList (entries : List (String × α)) : ((ofList entries).map (·.1)).Nodup := by
  induction entries using List.reverseRecOn with
  | nil => exact List.nodup_nil
  | append_singleton entries entry ih =>
    rw [ofList_concat]
    exact nodup_names_put ih entry.1 entry.2

theorem forall_ofList {P : α → Prop} (each : ∀ entry ∈ entries, P entry.2) : ∀ entry ∈ ofList entries, P entry.2 := by
  induction entries using List.reverseRecOn with
  | nil => exact each
  | append_singleton entries entry ih =>
    rw [List.forall_mem_append, List.forall_mem_singleton] at each
    rw [ofList_concat]
    exact forall_put (ih each.1) each.2 entry.1

/-- Entries are as many after they are put only if their names are distinct. -/
theorem nodup_of_length_ofList (same : (ofList entries).length = entries.length) : (entries.map (·.1)).Nodup := by
  have names : ((ofList entries).map (·.1)).Perm (entries.map (·.1)).dedup := by
    rw [List.perm_ext_iff_of_nodup (nodup_names_ofList entries) (List.nodup_dedup _)]
    exact fun name => mem_names_ofList.trans List.mem_dedup.symm
  have whole : (entries.map (·.1)).dedup = entries.map (·.1) := by
    apply (List.dedup_sublist _).eq_of_length
    rw [← names.length_eq, List.length_map, List.length_map, same]
  exact List.dedup_eq_self.mp whole

end Keyed
end Junction
