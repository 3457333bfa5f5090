import Junction.Proofs.Json.Write

/-!
Writes that fail. They fail where something on the way cannot be gone through, and what was opened before stays; nothing
that was there is lost, nulls apart (`set_obstructed`). The positions of a path are words of 64 bits, and so is every
length that a write computes with them.
-/

namespace Junction.Json
open Text (wordLimit signedLimit)

variable {segment : Segment} {path way rest : Path} {value after changed new child kept : Json} {stuck : Stuck}

/-! ## When a write fails -/

/-- Something on the way of the path, or what a write opens there, cannot be gone through. -/
def Obstructed (path : Path) (value : Json) : Prop :=
  ∃ way segment rest, path = way ++ segment :: rest ∧ Obstructs segment (opened segment ((value.get? way).getD .null))

theorem obstructed_cons : Obstructed (segment :: rest) value ↔
    Obstructs segment (opened segment value) ∨ Obstructed rest ((value.child? segment).getD .null) := by
  constructor
  · rintro ⟨_ | ⟨first, way⟩, last, back, same, stops⟩
    · cases same
      exact .inl stops
    · cases same
      rw [getD_get?_cons] at stops
      exact .inr ⟨way, last, back, rfl, stops⟩
  · rintro (stops | ⟨way, last, back, rfl, stops⟩)
    · exact ⟨[], segment, rest, rfl, stops⟩
    · exact ⟨segment :: way, last, back, rfl, by rwa [getD_get?_cons]⟩

/-- What has the child that a write goes on to does not stop it. -/
theorem not_obstructs_of_child? (found : value.child? segment = some child) : ¬ Obstructs segment (opened segment value) := by
  cases value with
  | object fields => nofun
  | array items =>
    obtain ⟨position, addressed, item⟩ := Option.bind_eq_some_iff.mp found
    have inside := (List.getElem?_eq_some_iff.mp item).1
    rintro (_ | _ | _ | none | ⟨again, beyond⟩)
    · cases addressed.symm.trans none
    · cases addressed.symm.trans again
      exact absurd (Nat.lt_of_lt_of_le inside (Nat.le_add_right ..)) (Nat.not_lt_of_le beyond)
  | null | bool | number | text => cases found

theorem setAt_error_iff : (∃ stuck, setAt new path value = .error stuck) ↔ Obstructed path value := by
  induction path generalizing value with
  | nil =>
    constructor
    · rintro ⟨stuck, failed⟩
      cases failed
    · rintro ⟨way, segment, rest, same, _⟩
      cases way <;> cases same
  | cons segment rest ih =>
    rw [obstructed_cons, ← ih]
    rcases setAt_cons new segment rest value with ⟨stops, error, same⟩ | ⟨free, around, _, same⟩
    · exact ⟨fun _ => .inl stops, fun _ => ⟨_, same⟩⟩
    · rw [same, or_iff_right free]
      cases setAt new rest ((value.child? segment).getD .null) with
      | ok child =>
        constructor
        · rintro ⟨_, failed⟩
          cases failed
        · rintro ⟨_, failed⟩
          cases failed
      | error inner => exact ⟨fun _ => ⟨inner, rfl⟩, fun _ => ⟨_, rfl⟩⟩

theorem not_obstructed_of_get? (found : value.get? path = some kept) : ¬ Obstructed path value := by
  rintro ⟨way, segment, rest, rfl, stops⟩
  rw [get?_append] at found
  obtain ⟨node, there, below⟩ := Option.bind_eq_some_iff.mp found
  obtain ⟨child, next, _⟩ := Option.bind_eq_some_iff.mp below
  rw [there, Option.getD_some] at stops
  exact not_obstructs_of_child? next stops

/-- Writing what is there already changes nothing. -/
theorem setAt_get? (there : value.get? path = some kept) : setAt kept path value = .ok value := by
  induction path generalizing value with
  | nil =>
    cases there
    rfl
  | cons segment rest ih =>
    obtain ⟨child, next, further⟩ := Option.bind_eq_some_iff.mp there
    rcases setAt_cons kept segment rest value with ⟨stops, _⟩ | ⟨_, around, writes, goesOn⟩
    · exact absurd stops (not_obstructs_of_child? next)
    · rw [next, Option.getD_some, ih further] at goesOn
      rw [goesOn, within, eq_of_writesChild (writes child) next]

/-! ## What a failed write leaves -/

/-- What there still is of a value: a scalar as it was, an object with more fields behind, an array with more items behind.
Null may have become anything. -/
def Remains : Json → Json → Prop
  | .null, _ => True
  | .object fields, .object more => fields.map (·.1) <+: more.map (·.1)
  | .array items, .array more => items.length ≤ more.length
  | value, now => now = value

theorem Remains.refl (value : Json) : Remains value value := by
  cases value with
  | null => exact trivial
  | object fields => exact List.prefix_refl _
  | array items => exact Nat.le_refl _
  | bool | number | text => rfl

theorem remains_of_writesChild (writes : WritesChild segment child value after) : Remains value after := by
  cases writes with
  | field => simp [Remains]
  | newField => simp [Remains]
  | item => simp [Remains]
  | newItem => simp [Remains]
  | opened => exact trivial

/-- A failed write leaves the containers that it could open, and whatever has been there. -/
theorem get?_left (failed : setAt new path value = .error stuck) (found : value.get? way = some kept) :
    ∃ now, stuck.left.get? way = some now ∧ Remains kept now := by
  induction path generalizing value stuck way with
  | nil => cases failed
  | cons segment rest ih =>
    rcases setAt_cons new segment rest value with ⟨_, error, stops⟩ | ⟨_, around, writes, goesOn⟩
    · cases stops.symm.trans failed
      cases value with
      | null =>
        cases way with
        | nil =>
          cases found
          exact ⟨_, rfl, trivial⟩
        | cons => cases found
      | bool | number | text | array | object => exact ⟨kept, found, Remains.refl kept⟩
    · cases inner : setAt new rest ((value.child? segment).getD .null) with
      | ok child =>
        rw [inner] at goesOn
        cases goesOn.symm.trans failed
      | error below =>
        rw [inner] at goesOn
        cases goesOn.symm.trans failed
        have step := writes below.left
        cases way with
        | nil =>
          cases found
          exact ⟨_, rfl, remains_of_writesChild step⟩
        | cons other way =>
          obtain ⟨next, there, further⟩ := Option.bind_eq_some_iff.mp found
          by_cases same : value.placeOf segment = value.placeOf other
          · rw [child?_congr same, there] at inner
            rw [get?_through step same there]
            exact ih inner further
          · exact ⟨kept, get?_beside step same found, Remains.refl kept⟩

/-! ## Positions in words -/

/-- The length that an array is given for an item at a position, in words of 64 bits whose sums and differences wrap
around; none for a position that is too far. -/
def wordLength? (length position : UInt64) : Option UInt64 :=
  if position < length then some length
  else if UInt64.ofNat paddingLimit ≤ position - length then none
  else some (position + 1)

theorem wordLength?_eq {items : List Json} {position : Nat} (addressable : items.length < signedLimit)
    (word : position ≤ wordLimit) :
    (wordLength? (.ofNat items.length) (.ofNat position)).map UInt64.toNat =
      if items.length + paddingLimit ≤ position then none else some (padded items position).length := by
  have size : UInt64.size = wordLimit + 1 := rfl
  have limit : wordLimit = 18446744073709551615 := rfl
  have half : signedLimit = 9223372036854775808 := rfl
  have length : (UInt64.ofNat items.length).toNat = items.length := UInt64.toNat_ofNat_of_lt' (by omega)
  have index : (UInt64.ofNat position).toNat = position := UInt64.toNat_ofNat_of_lt' (by omega)
  have bound : (UInt64.ofNat paddingLimit).toNat = 1024 := rfl
  have padding : paddingLimit = 1024 := rfl
  have inside : (padded items position).length = max items.length (position + 1) := by
    rw [padded, List.length_append, List.length_replicate]
    omega
  rw [inside, wordLength?]
  by_cases before : position < items.length
  · have first : UInt64.ofNat position < UInt64.ofNat items.length := by rwa [UInt64.lt_iff_toNat_lt, length, index]
    rw [if_pos first, if_neg (by omega), Option.map_some, length, Nat.max_eq_left before]
  · have behind : UInt64.ofNat items.length ≤ UInt64.ofNat position := by
      rw [UInt64.le_iff_toNat_le, length, index]
      exact Nat.le_of_not_lt before
    have between : (UInt64.ofNat position - UInt64.ofNat items.length).toNat = position - items.length := by
      rw [UInt64.toNat_sub_of_le _ _ behind, length, index]
    rw [if_neg (UInt64.not_lt.mpr behind)]
    by_cases far : items.length + paddingLimit ≤ position
    · have beyond : UInt64.ofNat paddingLimit ≤ UInt64.ofNat position - UInt64.ofNat items.length := by
        rw [UInt64.le_iff_toNat_le, between, bound]
        omega
      rw [if_pos far, if_pos beyond, Option.map_none]
    · have near : ¬ UInt64.ofNat paddingLimit ≤ UInt64.ofNat position - UInt64.ofNat items.length := by
        rw [UInt64.le_iff_toNat_le, between, bound]
        omega
      -- a position this near to the end of an array that can be addressed is not the last word
      have next : (UInt64.ofNat position + 1).toNat = position + 1 := by
        rw [UInt64.toNat_add, index, UInt64.toNat_one]
        exact Nat.mod_eq_of_lt (by omega)
      rw [if_neg far, if_neg near, Option.map_some, next, Nat.max_eq_right (by omega)]

theorem word?_le {s : List Char} {n : Nat} (read : Text.word? s = some n) : n ≤ wordLimit := by
  simpa using (Option.filter_eq_some_iff.mp read).2

/-- Every position that a path in writing addresses is a word. -/
theorem position_le_of_mem_segments {scan : Path.Scan} {s : List Char} (member : segment ∈ Path.segments scan s)
    {position : Nat} (found : segment.position? = some position) : position ≤ wordLimit := by
  have dotted : ∀ name, segment ∈ Path.dottedSegment name → position ≤ wordLimit := by
    intro name inside
    rw [Path.dottedSegment] at inside
    split at inside
    · cases inside
    · cases List.mem_singleton.mp inside
      exact word?_le found
  have bracketed : ∀ inner, segment ∈ Path.bracketedSegment inner → position ≤ wordLimit := by
    intro inner inside
    rw [Path.bracketedSegment] at inside
    split at inside
    · rename_i index read
      cases List.mem_singleton.mp inside
      cases found
      exact word?_le read
    · split at inside
      · cases inside
      · cases List.mem_singleton.mp inside
        exact word?_le found
  fun_induction Path.segments scan s with
  | case1 name => exact dotted name member
  | case2 name rest ih => exact (List.mem_append.mp member).elim (dotted name) ih
  | case3 name rest differs ih => exact (List.mem_append.mp member).elim (dotted name) ih
  | case4 name c rest _ _ ih => exact ih member
  | case5 inner => exact bracketed inner member
  | case6 inner rest ih => exact (List.mem_append.mp member).elim (bracketed inner) ih
  | case7 inner c rest _ ih => exact ih member

/-! ## A whole write -/

/-- When a write fails, and what it leaves. It fails if and only if something on the way cannot be gone through. Every
path that led to a scalar then still leads to it, and no field and no item is lost. The lengths of arrays that are
computed in words of 64 bits with the positions of a path in writing are those that are computed in numbers. -/
theorem set_obstructed (nonempty : path ≠ []) (value new : Json) :
    ((∃ stuck, value.set path new = .error stuck) ↔ Obstructed path value) ∧
    (∀ stuck, value.set path new = .error stuck → ∀ way kept, value.get? way = some kept →
      ∃ now, stuck.left.get? way = some now ∧ Remains kept now) ∧
    ∀ text, path = Path.ofText text → ∀ segment ∈ path, ∀ position, segment.position? = some position →
      ∀ items : List Json, items.length < signedLimit →
        (wordLength? (.ofNat items.length) (.ofNat position)).map UInt64.toNat =
          if items.length + paddingLimit ≤ position then none else some (padded items position).length := by
  have inner : value.set path new = setAt new path value := if_neg (by rwa [List.isEmpty_iff])
  rw [inner]
  refine ⟨setAt_error_iff, ?_, ?_⟩
  · intro stuck failed way kept found
    exact get?_left failed found
  · rintro text rfl segment member position found items addressable
    exact wordLength?_eq addressable (position_le_of_mem_segments member found)

/-- A write fails where something on the way cannot be gone through, and else gives the new value at the path. -/
theorem set_cases (nonempty : path ≠ []) (value new : Json) :
    (Obstructed path value ∧ ∃ stuck, value.set path new = .error stuck) ∨
      ∃ changed, value.set path new = .ok changed ∧ Writes path new value changed := by
  cases result : value.set path new with
  | ok changed => exact .inr ⟨changed, rfl, writes_of_setAt (setAt_of_set result)⟩
  | error stuck =>
    have failed : setAt new path value = .error stuck := by
      rwa [set, if_neg (by rwa [List.isEmpty_iff])] at result
    exact .inl ⟨setAt_error_iff.mp ⟨stuck, failed⟩, stuck, rfl⟩

/-- What is there can be written over. -/
theorem set_of_get? (nonempty : path ≠ []) (found : value.get? path = some kept) (new : Json) :
    ∃ changed, value.set path new = .ok changed ∧ Writes path new value changed :=
  (set_cases nonempty value new).resolve_left fun stops => not_obstructed_of_get? found stops.1

/-- A user of whom only the name is known. -/
def named : Json := .object [("user", .null), ("name", .text "Ana")]

/-- A tag too far behind none at all is not written; the containers on the way to it stay. -/
theorem set_obstructed_named : Path.ofText "user.tags[4000]" ≠ [] ∧ Obstructed (Path.ofText "user.tags[4000]") named ∧
    ∀ way kept, named.get? way = some kept → ∃ now,
      (Json.object [("user", .object [("tags", .array [])]), ("name", .text "Ana")]).get? way = some now ∧
        Remains kept now := by
  have nonempty : Path.ofText "user.tags[4000]" ≠ [] := by decide
  obtain ⟨fails, leaves, _⟩ := set_obstructed nonempty named (.bool true)
  exact ⟨nonempty, fails.mp ⟨_, rfl⟩, leaves _ rfl⟩

end Junction.Json
