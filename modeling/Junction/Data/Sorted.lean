/-!
Maps from strings, listed in the order of their keys: character by character, by code point.
-/

namespace Junction

/-- A map from strings, as its entries in strictly increasing order of the keys. -/
structure Sorted (α : Type) where
  entries : List (String × α)
  increasing : entries.Pairwise (fun a b => a.1 < b.1)

namespace Sorted

variable {α β : Type}

/-- The map without entries. -/
def empty : Sorted α := ⟨[], List.Pairwise.nil⟩

instance : EmptyCollection (Sorted α) := ⟨empty⟩
instance : Inhabited (Sorted α) := ⟨empty⟩

/-- The value of a key among the entries. -/
def find? (key : String) : List (String × α) → Option α
  | [] => none
  | (name, value) :: rest => if name = key then some value else find? key rest

/-- The value of a key. -/
def get? (map : Sorted α) (key : String) : Option α := find? key map.entries

/-- The key has a value. -/
def contains (map : Sorted α) (key : String) : Bool := (map.get? key).isSome

/-- The map has no entry. -/
def isEmpty (map : Sorted α) : Bool := map.entries.isEmpty

/-- The number of entries. -/
def size (map : Sorted α) : Nat := map.entries.length

/-- The keys in increasing order. -/
def keys (map : Sorted α) : List String := map.entries.map (·.1)

/-- The entries after a value has been given to a key. -/
def insertEntry (key : String) (value : α) : List (String × α) → List (String × α)
  | [] => [(key, value)]
  | (name, old) :: rest =>
    if key < name then (key, value) :: (name, old) :: rest
    else if name < key then (name, old) :: insertEntry key value rest
    else (name, value) :: rest

theorem key_of_mem_insertEntry {key : String} {value : α} {entries : List (String × α)} {entry : String × α}
    (member : entry ∈ insertEntry key value entries) :
    entry.1 = key ∨ ∃ old ∈ entries, old.1 = entry.1 := by
  induction entries with
  | nil =>
    simp only [insertEntry, List.mem_singleton] at member
    exact Or.inl (by rw [member])
  | cons head rest ih =>
    obtain ⟨name, old⟩ := head
    simp only [insertEntry] at member
    split at member
    · rcases List.mem_cons.1 member with same | listed
      · exact Or.inl (by rw [same])
      · exact Or.inr ⟨entry, listed, rfl⟩
    · split at member
      · rcases List.mem_cons.1 member with same | listed
        · exact Or.inr ⟨(name, old), List.mem_cons_self, by rw [same]⟩
        · rcases ih listed with isKey | ⟨other, otherListed, sameKey⟩
          · exact Or.inl isKey
          · exact Or.inr ⟨other, List.mem_cons_of_mem _ otherListed, sameKey⟩
      · rcases List.mem_cons.1 member with same | listed
        · exact Or.inr ⟨(name, old), List.mem_cons_self, by rw [same]⟩
        · exact Or.inr ⟨entry, List.mem_cons_of_mem _ listed, rfl⟩

theorem increasing_insertEntry (key : String) (value : α) {entries : List (String × α)}
    (increasing : entries.Pairwise (fun a b => a.1 < b.1)) :
    (insertEntry key value entries).Pairwise (fun a b => a.1 < b.1) := by
  induction entries with
  | nil => simp [insertEntry]
  | cons head rest ih =>
    obtain ⟨name, old⟩ := head
    obtain ⟨below, tail⟩ := List.pairwise_cons.1 increasing
    simp only [insertEntry]
    split
    · rename_i less
      refine List.pairwise_cons.2 ⟨?_, increasing⟩
      intro entry member
      rcases List.mem_cons.1 member with same | listed
      · rw [same]; exact less
      · exact String.lt_trans less (below entry listed)
    · split
      · rename_i more
        refine List.pairwise_cons.2 ⟨?_, ih tail⟩
        intro entry member
        rcases key_of_mem_insertEntry member with isKey | ⟨other, listed, sameKey⟩
        · rw [isKey]; exact more
        · rw [← sameKey]; exact below other listed
      · exact List.pairwise_cons.2 ⟨below, tail⟩

/-- The map with a value given to a key. -/
def insert (map : Sorted α) (key : String) (value : α) : Sorted α :=
  ⟨insertEntry key value map.entries, increasing_insertEntry key value map.increasing⟩

/-- The map with only the entries that pass a test. -/
def filter (map : Sorted α) (keep : String → α → Bool) : Sorted α :=
  ⟨map.entries.filter (fun entry => keep entry.1 entry.2), map.increasing.filter _⟩

/-- The map without a key. -/
def erase (map : Sorted α) (key : String) : Sorted α := map.filter (fun name _ => name != key)

/-- The map of the entries, a later one replacing an earlier one of the same key. -/
def ofList (entries : List (String × α)) : Sorted α :=
  entries.foldl (fun map entry => map.insert entry.1 entry.2) empty

end Sorted
end Junction
