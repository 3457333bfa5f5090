import Junction.Data.Sorted

/-!
The laws of maps from strings: what is found after an entry is put in or left out, and that maps in which the
same is found are the same.
-/

namespace Junction.Sorted

variable {α : Type} {key name : String} {value : α} {entries : List (String × α)} {map one other : Sorted α}

/-! ## Looking up -/

theorem find?_insertEntry (name : String) :
    find? name (insertEntry key value entries) = if key = name then some value else find? name entries := by
  induction entries with
  | nil => rfl
  | cons head rest ih =>
    obtain ⟨listed, old⟩ := head
    simp only [insertEntry]
    split
    · rfl
    · rename_i notLess
      split
      · rename_i less
        have differ : listed ≠ key := fun same => String.lt_irrefl key (same ▸ less)
        simp only [find?, ih]
        by_cases here : listed = name
        · have other : key ≠ name := fun same => differ (here.trans same.symm)
          simp [here, other]
        · simp [here]
      · rename_i notMore
        have same : listed = key := String.le_antisymm (String.not_lt.mp notLess) (String.not_lt.mp notMore)
        by_cases here : key = name
        · simp [find?, same, here]
        · simp [find?, same, here]

theorem get?_insert (map : Sorted α) (key : String) (value : α) (name : String) :
    (map.insert key value).get? name = if key = name then some value else map.get? name :=
  find?_insertEntry name

theorem get?_insert_self (map : Sorted α) (key : String) (value : α) :
    (map.insert key value).get? key = some value := by
  rw [get?_insert, if_pos rfl]

theorem get?_insert_of_ne (different : key ≠ name) : (map.insert key value).get? name = map.get? name := by
  rw [get?_insert, if_neg different]

theorem find?_eq_none_of_forall (absent : ∀ entry ∈ entries, entry.1 ≠ key) : find? key entries = none := by
  induction entries with
  | nil => rfl
  | cons head rest ih =>
    obtain ⟨name, value⟩ := head
    have differ : name ≠ key := absent (name, value) List.mem_cons_self
    simp only [find?, differ, if_false]
    exact ih fun entry member => absent entry (List.mem_cons_of_mem _ member)

/-- Keys that increase occur once, so that what is listed is what is found. -/
theorem mem_iff_find? (increasing : entries.Pairwise (fun a b => a.1 < b.1)) :
    (key, value) ∈ entries ↔ find? key entries = some value := by
  induction entries with
  | nil => simp [find?]
  | cons head rest ih =>
    obtain ⟨name, listed⟩ := head
    obtain ⟨below, tail⟩ := List.pairwise_cons.mp increasing
    by_cases here : name = key
    · have later : (key, value) ∉ rest := by
        intro member
        exact String.lt_irrefl key (here ▸ below (key, value) member)
      simp [find?, here, later, eq_comm]
    · have notHead : key ≠ name := fun same => here same.symm
      simp [find?, here, notHead, ih tail]

theorem mem_entries_iff : (key, value) ∈ map.entries ↔ map.get? key = some value := mem_iff_find? map.increasing

theorem contains_iff_mem_keys : map.contains key = true ↔ key ∈ map.keys := by
  rw [contains, Option.isSome_iff_exists, keys, List.mem_map]
  constructor
  · rintro ⟨value, found⟩
    exact ⟨(key, value), mem_entries_iff.mpr found, rfl⟩
  · rintro ⟨⟨_, value⟩, listed, rfl⟩
    exact ⟨value, mem_entries_iff.mp listed⟩

theorem find?_filter (increasing : entries.Pairwise (fun a b => a.1 < b.1)) (keep : String → α → Bool) :
    find? key (entries.filter fun entry => keep entry.1 entry.2) = (find? key entries).filter (keep key) := by
  induction entries with
  | nil => rfl
  | cons head rest ih =>
    obtain ⟨name, value⟩ := head
    obtain ⟨below, tail⟩ := List.pairwise_cons.mp increasing
    by_cases here : name = key
    · subst here
      have absent : find? name (rest.filter fun entry => keep entry.1 entry.2) = none := by
        apply find?_eq_none_of_forall
        intro entry member same
        have above := below entry ((List.mem_filter.mp member).1)
        exact String.lt_irrefl name (same ▸ above)
      by_cases kept : keep name value = true
      · simp [find?, kept, Option.filter]
      · simp [find?, kept, absent, Option.filter]
    · by_cases kept : keep name value = true
      · simp [find?, kept, here, ih tail]
      · simp [find?, kept, here, ih tail]

theorem get?_filter (map : Sorted α) (keep : String → α → Bool) (key : String) :
    (map.filter keep).get? key = (map.get? key).filter (keep key) :=
  find?_filter map.increasing keep

theorem get?_erase (map : Sorted α) (key name : String) :
    (map.erase key).get? name = if name = key then none else map.get? name := by
  rw [erase, get?_filter]
  by_cases same : name = key
  · cases map.get? name <;> simp [same]
  · cases map.get? name <;> simp [same]

/-- The map with another value under each key. -/
def mapValues {β : Type} (change : α → β) (map : Sorted α) : Sorted β :=
  ⟨map.entries.map fun entry => (entry.1, change entry.2), List.pairwise_map.mpr map.increasing⟩

theorem find?_map {β : Type} (change : α → β) (entries : List (String × α)) (key : String) :
    find? key (entries.map fun entry => (entry.1, change entry.2)) = (find? key entries).map change := by
  induction entries with
  | nil => rfl
  | cons head rest ih =>
    obtain ⟨name, value⟩ := head
    by_cases here : name = key
    · simp [find?, here]
    · simp [find?, here, ih]

theorem get?_mapValues {β : Type} (change : α → β) (map : Sorted α) (key : String) :
    (map.mapValues change).get? key = (map.get? key).map change :=
  find?_map change map.entries key

/-! ## Maps are what is found in them -/

/-- Lists in a strict order are the same if they have the same members. -/
theorem eq_of_mem_iff {β : Type} {left right : List β} {before : β → β → Prop}
    (asymm : ∀ first second, before first second → ¬ before second first) (leftOrdered : left.Pairwise before)
    (rightOrdered : right.Pairwise before) (same : ∀ item, item ∈ left ↔ item ∈ right) : left = right := by
  have distinct : ∀ {list : List β}, list.Pairwise before → list.Nodup := by
    intro list ordered
    refine List.Pairwise.imp ?_ ordered
    rintro first _ earlier rfl
    exact asymm first first earlier earlier
  refine List.Perm.eq_of_pairwise ?_ leftOrdered rightOrdered
    ((List.perm_ext_iff_of_nodup (distinct leftOrdered) (distinct rightOrdered)).mpr same)
  intro first second _ _ earlier later
  exact absurd later (asymm first second earlier)

/-- Maps in which the same is found under every key are the same. -/
theorem ext_get? (same : ∀ key, one.get? key = other.get? key) : one = other := by
  have entries : one.entries = other.entries := by
    apply eq_of_mem_iff (fun first second => String.lt_asymm) one.increasing other.increasing
    rintro ⟨key, value⟩
    rw [mem_entries_iff, mem_entries_iff, same]
  obtain ⟨left, leftIncreasing⟩ := one
  obtain ⟨right, rightIncreasing⟩ := other
  cases entries
  rfl

end Junction.Sorted
