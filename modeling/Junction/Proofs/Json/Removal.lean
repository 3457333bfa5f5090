import Junction.Proofs.Json.Obstruction

/-!
Removing what a path addresses. A removal takes one child out of one container and leaves every other place as it was,
items behind the removed one a place further down. What a write has put where nothing was is removed again without a
trace (`delete_removes`).
-/

namespace Junction.Json

variable {segment other : Segment} {path rest way away now : Path} {value after changed new child old : Json}

/-! ## One child -/

/-- A value after another one without the child at the place of a segment, and all else in its order. -/
inductive DropsChild (segment : Segment) : Json → Json → Prop where
  | field {front back : List (String × Json)} {old : Json} (first : segment.name ∉ front.map (·.1)) :
    DropsChild segment (.object (front ++ (segment.name, old) :: back)) (.object (front ++ back))
  | item {front back : List Json} {old : Json} (found : segment.position? = some front.length) :
    DropsChild segment (.array (front ++ old :: back)) (.array (front ++ back))

theorem split_of_item {items : List Json} {position : Nat} {old : Json} (found : items[position]? = some old) :
    ∃ front back, front.length = position ∧ items = front ++ old :: back := by
  obtain ⟨inside, rfl⟩ := List.getElem?_eq_some_iff.mp found
  refine ⟨items.take position, items.drop (position + 1), List.length_take_of_le (Nat.le_of_lt inside), ?_⟩
  rw [← List.drop_eq_getElem_cons, List.take_append_drop]

theorem removeChild?_isSome (value : Json) (segment : Segment) :
    (value.removeChild? segment).isSome = (value.child? segment).isSome := by
  cases value with
  | object fields =>
    rw [removeChild?, Keyed.contains, child?]
    cases Keyed.get? segment.name fields <;> rfl
  | array items =>
    rw [removeChild?, child?]
    cases segment.position? with
    | none => rfl
    | some position => by_cases inside : position < items.length <;> simp [inside]
  | null | bool | number | text => rfl

theorem dropsChild_of_removeChild? (removed : value.removeChild? segment = some after) : DropsChild segment value after := by
  have there : (value.child? segment).isSome := by rw [← removeChild?_isSome, removed]; rfl
  obtain ⟨old, found⟩ := Option.isSome_iff_exists.mp there
  cases value with
  | object fields =>
    rw [removeChild?, if_pos (show Keyed.contains segment.name fields = true from there)] at removed
    obtain ⟨front, back, first, rfl⟩ := Keyed.exists_of_get? found
    rw [Keyed.erase_of_first first] at removed
    cases removed
    exact .field first
  | array items =>
    obtain ⟨position, addressed, item⟩ := Option.bind_eq_some_iff.mp found
    obtain ⟨front, back, rfl, rfl⟩ := split_of_item item
    have inside : front.length < (front ++ old :: back).length := by simp
    rw [removeChild?, addressed, Option.bind_some, if_pos inside,
      List.eraseIdx_append_of_length_le (Nat.le_refl _), Nat.sub_self, List.eraseIdx_cons_zero] at removed
    cases removed
    exact .item addressed
  | null | bool | number | text => cases found

/-- Items before a removed one stay, and those behind it move down by one. -/
theorem getElem?_dropped (front back : List Json) (old : Json) (place : Nat) :
    (front ++ back)[place]? =
      if place < front.length then (front ++ old :: back)[place]? else (front ++ old :: back)[place + 1]? := by
  by_cases before : place < front.length
  · rw [if_pos before, List.getElem?_append_left before, List.getElem?_append_left before]
  · have behind := Nat.le_of_not_lt before
    rw [if_neg before, List.getElem?_append_right behind, List.getElem?_append_right (Nat.le_succ_of_le behind),
      Nat.succ_sub behind, List.getElem?_cons_succ]

/-! ## A child in the place of another -/

theorem writesChild_replaceChild (found : value.child? segment = some old) (child : Json) :
    WritesChild segment child value (value.replaceChild segment child) := by
  cases value with
  | object fields => exact writesChild_put segment child fields
  | array items =>
    obtain ⟨position, addressed, item⟩ := Option.bind_eq_some_iff.mp found
    obtain ⟨front, back, rfl, rfl⟩ := split_of_item item
    rw [replaceChild, addressed, Option.map_some, Option.getD_some, List.set_append_right _ _ (Nat.le_refl _),
      Nat.sub_self, List.set_cons_zero]
    exact .item addressed
  | null | bool | number | text => cases found

/-- Putting the old child back gives the value as it was. -/
theorem replaceChild_of_writesChild (writes : WritesChild segment child value after)
    (found : value.child? segment = some old) : after.replaceChild segment old = value := by
  cases writes with
  | field first =>
    cases (Keyed.get?_of_first first _ _).symm.trans found
    rw [replaceChild, Keyed.put_of_first first]
  | newField absent => cases (Keyed.get?_eq_none_iff.mpr absent).symm.trans found
  | item here =>
    rename_i front back before
    have same : before = old := by simpa [child?, here] using found
    rw [replaceChild, here, Option.map_some, Option.getD_some, List.set_append_right _ _ (Nat.le_refl _),
      Nat.sub_self, List.set_cons_zero, same]
  | newItem here => simp [child?, here] at found
  | opened => cases found

theorem child?_eq_of_writesChild (writes : WritesChild segment child value after) (found : value.child? segment = some old)
    (differ : value.placeOf segment ≠ value.placeOf other) : after.child? other = value.child? other := by
  have filled : value.isNull = false := by cases value <;> first | rfl | cases found
  have back : WritesChild segment old after value := by
    have replaced := writesChild_replaceChild (child?_of_writesChild writes) old
    rwa [replaceChild_of_writesChild writes found] at replaced
  have differ' : after.placeOf segment ≠ after.placeOf other := by
    rwa [placeOf_of_writesChild writes filled, placeOf_of_writesChild writes filled]
  exact Option.ext fun kept =>
    ⟨child?_of_writesChild_of_ne back differ', child?_of_writesChild_of_ne writes differ⟩

/-! ## A whole removal -/

theorem delete?_cons (nonempty : rest ≠ []) (segment : Segment) (value : Json) :
    delete? (segment :: rest) value =
      (value.child? segment).bind fun child => (delete? rest child).map (value.replaceChild segment) := by
  cases rest with
  | nil => exact absurd rfl nonempty
  | cons => rfl

theorem delete?_isSome (nonempty : path ≠ []) (value : Json) : (delete? path value).isSome = (value.get? path).isSome := by
  induction path generalizing value with
  | nil => exact absurd rfl nonempty
  | cons segment rest ih =>
    cases rest with
    | nil =>
      rw [delete?, removeChild?_isSome, get?_cons]
      cases value.child? segment <;> rfl
    | cons next rest =>
      rw [delete?_cons (List.cons_ne_nil _ _), get?_cons]
      cases value.child? segment with
      | none => rfl
      | some child => rw [Option.bind_some, Option.bind_some, Option.isSome_map, ih (List.cons_ne_nil _ _)]

/-- A step of a removal that is not the last one puts the child without what is removed in its place. -/
theorem delete?_cons_some (nonempty : rest ≠ []) (removed : delete? (segment :: rest) value = some after) :
    ∃ child left, value.child? segment = some child ∧ delete? rest child = some left ∧
      WritesChild segment left value after := by
  rw [delete?_cons nonempty] at removed
  obtain ⟨child, there, below⟩ := Option.bind_eq_some_iff.mp removed
  obtain ⟨left, inner, rfl⟩ := Option.map_eq_some_iff.mp below
  exact ⟨child, left, there, inner, writesChild_replaceChild there left⟩

/-- An item behind the one that a path addresses, and the place before it, which it moves down to. -/
inductive MovesDown : Json → Path → Path → Path → Prop where
  | here {items : List Json} {one other : Segment} {away : Path} {position place : Nat}
    (found : one.position? = some position) (there : other.position? = some (place + 1)) (behind : position ≤ place) :
    MovesDown (.array items) [one] (other :: away) (.index place :: away)
  | later {value child : Json} {one other : Segment} {path away now : Path} (same : value.placeOf one = value.placeOf other)
    (next : value.child? one = some child) (moves : MovesDown child path away now) :
    MovesDown value (one :: path) (other :: away) (other :: now)

/-- The container of what is removed. -/
theorem dropsChild_of_delete? (removed : delete? (way ++ [segment]) value = some after) :
    ∃ node left, value.get? way = some node ∧ after.get? way = some left ∧ DropsChild segment node left := by
  induction way generalizing value after with
  | nil => exact ⟨value, after, rfl, rfl, dropsChild_of_removeChild? removed⟩
  | cons first way ih =>
    have nonempty : way ++ [segment] ≠ [] := by simp
    obtain ⟨child, left, there, inner, writes⟩ := delete?_cons_some nonempty removed
    obtain ⟨node, kept, before, behind, drops⟩ := ih inner
    refine ⟨node, kept, ?_, ?_, drops⟩
    · rw [get?_cons, there]
      exact before
    · rw [get?_cons, child?_of_writesChild writes]
      exact behind

/-- A value on the way to what is removed. -/
theorem writesChild_of_delete? (removed : delete? (way ++ segment :: other :: rest) value = some after) :
    ∃ node left old child, value.get? way = some node ∧ after.get? way = some left ∧ node.child? segment = some old ∧
      WritesChild segment child node left := by
  induction way generalizing value after with
  | nil =>
    obtain ⟨child, left, there, _, writes⟩ := delete?_cons_some (List.cons_ne_nil _ _) removed
    exact ⟨value, after, child, left, rfl, rfl, there, writes⟩
  | cons first way ih =>
    have nonempty : way ++ segment :: other :: rest ≠ [] := by simp
    obtain ⟨child, left, there, inner, writes⟩ := delete?_cons_some nonempty removed
    obtain ⟨node, kept, old, new, before, behind, found, further⟩ := ih inner
    refine ⟨node, kept, old, new, ?_, ?_, found, further⟩
    · rw [get?_cons, there]
      exact before
    · rw [get?_cons, child?_of_writesChild writes]
      exact behind

theorem child?_of_dropsChild (drops : DropsChild segment value after) (differ : value.placeOf segment ≠ value.placeOf other)
    (still : ¬ ∃ now, MovesDown value [segment] (other :: way) now) : after.child? other = value.child? other := by
  cases drops with
  | field first =>
    have away : segment.name ≠ other.name := fun same => differ (by rw [placeOf, placeOf, same])
    rw [child?, child?, Keyed.get?_append, Keyed.get?_append, Keyed.get?, if_neg away]
  | item found =>
    rename_i front back old
    rw [child?, child?]
    cases there : other.position? with
    | none => rfl
    | some place =>
      have before : place < front.length := by
        rcases Nat.lt_trichotomy place front.length with before | same | behind
        · exact before
        · exact absurd (by rw [placeOf, placeOf, found, there, same]) differ
        · obtain ⟨further, rfl⟩ := Nat.exists_eq_add_of_lt behind
          exact absurd ⟨_, .here found there (Nat.le_add_right ..)⟩ still
      rw [Option.bind_some, Option.bind_some, getElem?_dropped front back old, if_pos before]

theorem get?_of_delete? (removed : delete? path value = some after) (parts : Parts value path away)
    (still : ¬ ∃ now, MovesDown value path away now) : after.get? away = value.get? away := by
  induction parts generalizing after with
  | here differ =>
    rename_i value one other path away
    cases path with
    | nil =>
      rw [get?_cons, get?_cons, child?_of_dropsChild (dropsChild_of_removeChild? removed) differ still]
    | cons next path =>
      obtain ⟨child, left, there, _, writes⟩ := delete?_cons_some (List.cons_ne_nil _ _) removed
      rw [get?_cons, get?_cons, child?_eq_of_writesChild writes there differ]
  | later same next parts ih =>
    rename_i value child one other path away
    have nonempty : path ≠ [] := by cases parts <;> exact List.cons_ne_nil _ _
    obtain ⟨found, left, there, inner, writes⟩ := delete?_cons_some nonempty removed
    cases next.symm.trans there
    rw [get?_through writes same ((child?_congr same).symm.trans next), get?_cons, ← child?_congr same, next,
      Option.bind_some]
    exact ih inner fun ⟨now, moves⟩ => still ⟨_, .later same next moves⟩

theorem get?_of_movesDown (moves : MovesDown value path away now) (removed : delete? path value = some after) :
    after.get? now = value.get? away := by
  induction moves generalizing after with
  | here found there behind =>
    rename_i items one other away position place
    cases dropsChild_of_removeChild? removed with
    | item here =>
      rename_i front back old
      cases here.symm.trans found
      rw [get?_cons, get?_cons, child?, child?, there]
      show (front ++ back)[place]?.bind _ = (front ++ old :: back)[place + 1]?.bind _
      rw [getElem?_dropped front back old, if_neg (Nat.not_lt_of_le behind)]
  | later same next moves ih =>
    rename_i value child one other path away now
    have nonempty : path ≠ [] := by cases moves <;> exact List.cons_ne_nil _ _
    obtain ⟨found, left, there, inner, writes⟩ := delete?_cons_some nonempty removed
    cases next.symm.trans there
    rw [get?_through writes same ((child?_congr same).symm.trans next), get?_cons, ← child?_congr same, next,
      Option.bind_some]
    exact ih inner

/-- A name that no other field has is gone with its field. -/
theorem get?_removed {fields : List (String × Json)} (removed : delete? (way ++ [segment]) value = some after)
    (container : value.get? way = some (.object fields)) (distinct : (fields.map (·.1)).Nodup) :
    after.get? (way ++ [segment]) = none := by
  obtain ⟨node, left, before, behind, drops⟩ := dropsChild_of_delete? removed
  cases before.symm.trans container
  cases drops with
  | field first =>
    rename_i front back old
    rw [List.map_append, List.map_cons, List.nodup_append, List.nodup_cons] at distinct
    have last : segment.name ∉ (front ++ back).map (·.1) := by
      rw [List.map_append, List.mem_append, not_or]
      exact ⟨first, distinct.2.1.1⟩
    rw [get?_append, behind, Option.bind_some, get?_cons, child?, Keyed.get?_eq_none_iff.mpr last, Option.bind_none]

/-! ## A write and the removal of what it has written -/

/-- A container that takes a new child at its end: any object, and an array if the segment is the number of its items. -/
inductive TakesLast (segment : Segment) : Json → Prop where
  | object (fields : List (String × Json)) : TakesLast segment (.object fields)
  | array {items : List Json} (next : segment.position? = some items.length) : TakesLast segment (.array items)

theorem delete?_setAt_last (takes : TakesLast segment value) (absent : value.child? segment = none) (new : Json) :
    ∃ changed, setAt new [segment] value = .ok changed ∧ delete? [segment] changed = some value := by
  cases takes with
  | object fields =>
    have unlisted := Keyed.get?_eq_none_iff.mp absent
    refine ⟨.object (fields ++ [(segment.name, new)]), ?_, ?_⟩
    · rw [← Keyed.put_of_absent unlisted]
      rfl
    · rw [delete?, removeChild?, Keyed.contains, Keyed.get?_of_first unlisted, Option.isSome_some, if_pos rfl,
        Keyed.erase_of_first unlisted, List.append_nil]
  | array next =>
    rename_i items
    have near : items.length < items.length + paddingLimit := Nat.lt_add_of_pos_right (by decide)
    have last : (padded items items.length).set items.length new = items ++ [new] := by
      rw [padded, Nat.add_sub_cancel_left, List.set_append_right _ _ (Nat.le_refl _), Nat.sub_self]
      rfl
    refine ⟨.array (items ++ [new]), ?_, ?_⟩
    · rw [setAt_array_near next near, ← last]
      rfl
    · rw [delete?, removeChild?, next, Option.bind_some, if_pos (by simp), List.eraseIdx_append_of_length_le (Nat.le_refl _),
        Nat.sub_self, List.eraseIdx_cons_zero, List.append_nil]

theorem delete?_setAt {node : Json} (container : value.get? way = some node) (takes : TakesLast segment node)
    (absent : node.child? segment = none) (new : Json) :
    ∃ changed, setAt new (way ++ [segment]) value = .ok changed ∧ delete? (way ++ [segment]) changed = some value := by
  induction way generalizing value with
  | nil =>
    cases container
    exact delete?_setAt_last takes absent new
  | cons first way ih =>
    obtain ⟨child, there, below⟩ := Option.bind_eq_some_iff.mp container
    obtain ⟨inner, written, undone⟩ := ih below
    have free : ¬ Obstructs first (opened first value) := not_obstructs_of_child? there
    rcases setAt_cons new first (way ++ [segment]) value with ⟨stops, _⟩ | ⟨_, around, writes, goesOn⟩
    · exact absurd stops free
    · rw [there, Option.getD_some, written] at goesOn
      refine ⟨around inner, goesOn, ?_⟩
      rw [List.cons_append, delete?_cons (by simp), child?_of_writesChild (writes inner), Option.bind_some, undone,
        Option.map_some, replaceChild_of_writesChild (writes inner) there]

/-! ## Removals -/

/-- What a removal gives. -/
structure Removes (path : Path) (before after : Json) : Prop where
  drops : ∀ way segment, path = way ++ [segment] → ∃ node left, before.get? way = some node ∧
    after.get? way = some left ∧ DropsChild segment node left
  gone : ∀ way segment fields, path = way ++ [segment] → before.get? way = some (.object fields) →
    (fields.map (·.1)).Nodup → after.get? path = none
  above : ∀ way segment other rest, path = way ++ segment :: other :: rest → ∃ node left old child,
    before.get? way = some node ∧ after.get? way = some left ∧ node.child? segment = some old ∧
      WritesChild segment child node left
  keeps : ∀ away, Parts before path away → (¬ ∃ now, MovesDown before path away now) → after.get? away = before.get? away
  moves : ∀ away now, MovesDown before path away now → after.get? now = before.get? away

theorem removes_of_delete? (removed : delete? path value = some after) : Removes path value after where
  drops := by
    rintro way segment rfl
    exact dropsChild_of_delete? removed
  gone := by
    rintro way segment fields rfl container distinct
    exact get?_removed removed container distinct
  above := by
    rintro way segment other rest rfl
    exact writesChild_of_delete? removed
  keeps := fun _ parts still => get?_of_delete? removed parts still
  moves := fun _ _ moves => get?_of_movesDown moves removed

/-- A path of at least one segment that leads somewhere is removed, and no other one. Its container loses one field or
item and keeps the others in their order; the values on the way to it keep their fields and items. Every path that
parts from it leads where it led, those through items behind it with a position less by one. A path that leads nowhere,
but to the end of a container, can be written, and its removal then gives the value as it was. -/
theorem delete_removes (path : Path) (value : Json) :
    ((delete? path value).isSome = true ↔ path ≠ [] ∧ (value.get? path).isSome = true) ∧
    ((delete? path value).isSome = false → (delete? path value).getD value = value) ∧
    ((delete? path value).isSome = true → Removes path value ((delete? path value).getD value)) ∧
    ∀ way segment node new, path = way ++ [segment] → value.get? path = none → value.get? way = some node →
      TakesLast segment node → ∃ changed, value.set path new = .ok changed ∧ delete? path changed = some value := by
  refine ⟨?_, ?_, ?_, ?_⟩
  · constructor
    · intro some
      have nonempty : path ≠ [] := by
        rintro rfl
        cases some
      exact ⟨nonempty, by rwa [← delete?_isSome nonempty]⟩
    · rintro ⟨nonempty, found⟩
      rwa [delete?_isSome nonempty]
  · intro none
    rw [Option.isSome_eq_false_iff, Option.isNone_iff_eq_none] at none
    rw [none, Option.getD_none]
  · intro some
    obtain ⟨after, removed⟩ := Option.isSome_iff_exists.mp some
    rw [removed, Option.getD_some]
    exact removes_of_delete? removed
  · rintro way segment node new rfl absent container takes
    have free : node.child? segment = none := by
      rw [get?_append, container, Option.bind_some, get?_cons] at absent
      cases found : node.child? segment with
      | none => rfl
      | some => rw [found] at absent; cases absent
    obtain ⟨changed, written, undone⟩ := delete?_setAt container takes free new
    exact ⟨changed, by rw [set, if_neg (by simp), written], undone⟩

/-- The tags of a reader, and a field whose name is a number. -/
def reader : Json := .object
  [("tags", .array [.text "a", .object [("x", .bool true)], .text "b"]), ("0", .null)]

/-- The first tag is removed: the others move down, and a third one takes its place and goes again. -/
theorem delete_removes_reader :
    Removes (Path.ofText "tags[0]") reader
      (.object [("tags", .array [.object [("x", .bool true)], .text "b"]), ("0", .null)]) ∧
    ∃ changed, reader.set (Path.ofText "tags.3") .null = .ok changed ∧
      delete? (Path.ofText "tags.3") changed = some reader := by
  obtain ⟨_, _, removes, _⟩ := delete_removes (Path.ofText "tags[0]") reader
  obtain ⟨_, _, _, undoes⟩ := delete_removes (Path.ofText "tags.3") reader
  exact ⟨removes rfl, undoes [.key "tags"] (.key "3") _ .null rfl rfl rfl (.array rfl)⟩

end Junction.Json
