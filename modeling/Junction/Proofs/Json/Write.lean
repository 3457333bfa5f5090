import Junction.Json.Edit
import Junction.Proofs.Data.Keyed

/-!
Writing at a path. A step of a write is stopped by what is there, or goes on in one child and changes nothing else
(`setAt_cons`). Along the path this tells what can be read after a write, and how each value on the way has grown
(`set_writes`).
-/

namespace Junction.Json

variable {segment other : Segment} {path rest way : Path} {value after changed new child kept : Json}

/-! ## Reading along a path -/

theorem get?_cons (value : Json) (segment : Segment) (rest : Path) :
    value.get? (segment :: rest) = (value.child? segment).bind fun child => child.get? rest := rfl

theorem get?_append (value : Json) (way rest : Path) :
    value.get? (way ++ rest) = (value.get? way).bind fun node => node.get? rest := by
  induction way generalizing value with
  | nil => rfl
  | cons segment way ih =>
    rw [List.cons_append, get?_cons, get?_cons]
    cases value.child? segment with
    | none => rfl
    | some child => exact ih child

/-- Where a child is in its container: under a name, or at a position. -/
inductive Place where
  | field (name : String)
  | item (position : Nat)

/-- The place that a segment addresses in a value. -/
def placeOf (value : Json) (segment : Segment) : Option Place :=
  match value with
  | .object _ => some (.field segment.name)
  | .array _ => segment.position?.map .item
  | _ => none

/-- Two paths that go on to different children of a value that both reach. -/
inductive Parts : Json → Path → Path → Prop where
  | here {value : Json} {one other : Segment} {path away : Path} (differ : value.placeOf one ≠ value.placeOf other) :
    Parts value (one :: path) (other :: away)
  | later {value child : Json} {one other : Segment} {path away : Path} (same : value.placeOf one = value.placeOf other)
    (next : value.child? one = some child) (parts : Parts child path away) : Parts value (one :: path) (other :: away)

theorem child?_congr (same : value.placeOf segment = value.placeOf other) : value.child? segment = value.child? other := by
  cases value with
  | object fields =>
    injection same with same
    injection same with same
    rw [child?, child?, same]
  | array items =>
    have positions : segment.position? = other.position? :=
      Option.map_injective (fun _ _ equal => Place.item.inj equal) same
    rw [child?, child?, positions]
  | null | bool | number | text => rfl

/-! ## One step of a write -/

/-- A value after another one with `child` at the place of a segment, and all else as it was: the place was there, or it
comes last in an object, or behind the items of an array with nulls up to it, or it is alone in a new container. -/
inductive WritesChild (segment : Segment) (child : Json) : Json → Json → Prop where
  | field {front back : List (String × Json)} {old : Json} (first : segment.name ∉ front.map (·.1)) :
    WritesChild segment child (.object (front ++ (segment.name, old) :: back))
      (.object (front ++ (segment.name, child) :: back))
  | newField {fields : List (String × Json)} (absent : segment.name ∉ fields.map (·.1)) :
    WritesChild segment child (.object fields) (.object (fields ++ [(segment.name, child)]))
  | item {front back : List Json} {old : Json} (found : segment.position? = some front.length) :
    WritesChild segment child (.array (front ++ old :: back)) (.array (front ++ child :: back))
  | newItem {items : List Json} {gap : Nat} (found : segment.position? = some (items.length + gap))
    (near : gap < paddingLimit) :
    WritesChild segment child (.array items) (.array (items ++ List.replicate gap .null ++ [child]))
  | opened {after : Json} (grown : WritesChild segment child segment.container after) :
    WritesChild segment child .null after

/-- What a write cannot go through: a scalar other than null, and an array if the segment is no number or a number too
far behind its end. -/
inductive Obstructs (segment : Segment) : Json → Prop where
  | bool (value : Bool) : Obstructs segment (.bool value)
  | number (value : Number) : Obstructs segment (.number value)
  | text (value : String) : Obstructs segment (.text value)
  | name {items : List Json} (none : segment.position? = none) : Obstructs segment (.array items)
  | far {items : List Json} {position : Nat} (found : segment.position? = some position)
    (far : items.length + paddingLimit ≤ position) : Obstructs segment (.array items)

theorem writesChild_put (segment : Segment) (child : Json) (fields : List (String × Json)) :
    WritesChild segment child (.object fields) (.object (Keyed.put segment.name child fields)) := by
  rcases Keyed.put_cases segment.name child fields with ⟨absent, same⟩ | ⟨front, old, back, first, rfl, same⟩
  · rw [same]
    exact .newField absent
  · rw [same]
    exact .field first

theorem writesChild_set {items : List Json} {position : Nat} (found : segment.position? = some position)
    (near : position < items.length + paddingLimit) (child : Json) :
    WritesChild segment child (.array items) (.array ((padded items position).set position child)) := by
  by_cases inside : position < items.length
  · have whole : padded items position = items := by
      rw [padded, Nat.sub_eq_zero_of_le inside, List.replicate_zero, List.append_nil]
    have split : items = items.take position ++ items[position] :: items.drop (position + 1) := by
      rw [← List.drop_eq_getElem_cons, List.take_append_drop]
    rw [whole, List.set_eq_take_append_cons_drop, if_pos inside]
    have length : (items.take position).length = position := List.length_take_of_le (Nat.le_of_lt inside)
    conv => arg 3; rw [split]
    exact .item (by rw [length]; exact found)
  · obtain ⟨gap, rfl⟩ := Nat.exists_eq_add_of_le (Nat.le_of_not_lt inside)
    have nulls : padded items (items.length + gap) = items ++ (List.replicate gap .null ++ [.null]) := by
      rw [padded, ← List.replicate_succ']
      congr 2
      omega
    have grown : (padded items (items.length + gap)).set (items.length + gap) child =
        items ++ List.replicate gap .null ++ [child] := by
      rw [nulls, List.set_append_right _ _ (Nat.le_add_right ..), Nat.add_sub_cancel_left,
        List.set_append_right _ _ (Nat.le_of_eq List.length_replicate),
        List.length_replicate, Nat.sub_self, List.append_assoc]
      rfl
    rw [grown]
    exact .newItem found (by omega)

theorem setAt_object (new : Json) (segment : Segment) (rest : Path) (fields : List (String × Json)) :
    setAt new (segment :: rest) (.object fields) =
      within (fun child => .object (Keyed.put segment.name child fields))
        (setAt new rest (((Json.object fields).child? segment).getD .null)) := rfl

theorem setAt_array_near {items : List Json} {position : Nat} (found : segment.position? = some position)
    (near : position < items.length + paddingLimit) (new : Json) (rest : Path) :
    setAt new (segment :: rest) (.array items) =
      within (fun child => .array ((padded items position).set position child))
        (setAt new rest (((Json.array items).child? segment).getD .null)) := by
  simp [setAt, opened, isNull, child?, found, Nat.not_le_of_lt near]

theorem setAt_obstructed {value : Json} (stops : Obstructs segment value) (new : Json) (rest : Path) :
    ∃ error, setAt new (segment :: rest) value = .error ⟨error, value⟩ := by
  cases stops with
  | bool value => exact ⟨_, rfl⟩
  | number value => exact ⟨_, rfl⟩
  | text value => exact ⟨_, rfl⟩
  | name none => exact ⟨.keyIntoArray segment.name, by simp [setAt, opened, isNull, none]⟩
  | far found far =>
    rename_i items position
    exact ⟨.tooFar position items.length, by simp [setAt, opened, isNull, found, far]⟩

/-- A step of a write into what is there: it is stopped, or it goes on in one child and puts the result in its place. -/
theorem setAt_filled (filled : value.isNull = false) (new : Json) (segment : Segment) (rest : Path) :
    Obstructs segment value ∨ (¬ Obstructs segment value ∧
      ∃ around, (∀ child, WritesChild segment child value (around child)) ∧
        setAt new (segment :: rest) value = within around (setAt new rest ((value.child? segment).getD .null))) := by
  cases value with
  | null => cases filled
  | bool value => exact .inl (.bool value)
  | number value => exact .inl (.number value)
  | text value => exact .inl (.text value)
  | object fields =>
    exact .inr ⟨nofun, _, fun child => writesChild_put segment child fields, setAt_object new segment rest fields⟩
  | array items =>
    cases found : segment.position? with
    | none => exact .inl (.name found)
    | some position =>
      by_cases far : items.length + paddingLimit ≤ position
      · exact .inl (.far found far)
      · have near := Nat.lt_of_not_le far
        refine .inr ⟨?_, _, writesChild_set found near, setAt_array_near found near new rest⟩
        rintro (_ | _ | _ | none | ⟨again, beyond⟩)
        · cases found.symm.trans none
        · cases found.symm.trans again
          exact far beyond

/-- A step of a write: it is stopped, or it goes on in one child and puts the result in its place. -/
theorem setAt_cons (new : Json) (segment : Segment) (rest : Path) (value : Json) :
    (Obstructs segment (opened segment value) ∧
      ∃ error, setAt new (segment :: rest) value = .error ⟨error, opened segment value⟩) ∨
    (¬ Obstructs segment (opened segment value) ∧ ∃ around, (∀ child, WritesChild segment child value (around child)) ∧
      setAt new (segment :: rest) value = within around (setAt new rest ((value.child? segment).getD .null))) := by
  by_cases null : value = .null
  · -- null is opened first, and the container that it becomes has no child yet
    subst null
    have filled : segment.container.isNull = false := by cases segment <;> rfl
    have empty : segment.container.child? segment = none := by cases segment <;> rfl
    have same : setAt new (segment :: rest) .null = setAt new (segment :: rest) segment.container := by
      cases segment <;> rfl
    rw [same]
    rcases setAt_filled filled new segment rest with stops | ⟨free, around, writes, goesOn⟩
    · exact .inl ⟨stops, setAt_obstructed stops new rest⟩
    · rw [empty] at goesOn
      exact .inr ⟨free, around, fun child => .opened (writes child), goesOn⟩
  · have filled : value.isNull = false := by cases value <;> first | rfl | exact absurd rfl null
    rw [opened, filled]
    rcases setAt_filled filled new segment rest with stops | goesOn
    · exact .inl ⟨stops, setAt_obstructed stops new rest⟩
    · exact .inr goesOn

theorem within_eq_ok {around : Json → Json} {result : Except Stuck Json} (same : within around result = .ok changed) :
    ∃ child, result = .ok child ∧ changed = around child := by
  cases result with
  | error => cases same
  | ok child =>
    cases same
    exact ⟨child, rfl, rfl⟩

theorem setAt_cons_ok (written : setAt new (segment :: rest) value = .ok changed) :
    ∃ child, setAt new rest ((value.child? segment).getD .null) = .ok child ∧ WritesChild segment child value changed := by
  rcases setAt_cons new segment rest value with ⟨_, error, stops⟩ | ⟨_, around, writes, goesOn⟩
  · cases stops.symm.trans written
  · obtain ⟨child, inner, rfl⟩ := within_eq_ok (goesOn.symm.trans written)
    exact ⟨child, inner, writes child⟩

/-! ## What a step writes -/

theorem child?_of_writesChild (writes : WritesChild segment child value after) : after.child? segment = some child := by
  induction writes with
  | field first => exact Keyed.get?_of_first first child _
  | newField absent => exact Keyed.get?_of_first absent child []
  | item found => simp [child?, found]
  | newItem found =>
    rename_i items gap _
    have last : (items ++ List.replicate gap Json.null).length = items.length + gap := by
      rw [List.length_append, List.length_replicate]
    rw [child?, found, Option.bind_some, ← last, List.getElem?_concat_length]
  | opened _ ih => exact ih

/-- A child that is there can be put in its own place. -/
theorem eq_of_writesChild (writes : WritesChild segment child value after) (found : value.child? segment = some child) :
    after = value := by
  cases writes with
  | field first =>
    cases (Keyed.get?_of_first first _ _).symm.trans found
    rfl
  | newField absent => cases (Keyed.get?_eq_none_iff.mpr absent).symm.trans found
  | item here =>
    rename_i front back old
    have same : old = child := by simpa [child?, here] using found
    rw [same]
  | newItem here => simp [child?, here] at found
  | opened => cases found

theorem placeOf_of_writesChild (writes : WritesChild segment child value after) (filled : value.isNull = false)
    (other : Segment) : after.placeOf other = value.placeOf other := by
  cases writes with
  | field | newField | item | newItem => rfl
  | opened => cases filled

/-- Other children are left where they are. -/
theorem child?_of_writesChild_of_ne (writes : WritesChild segment child value after)
    (differ : value.placeOf segment ≠ value.placeOf other) (found : value.child? other = some kept) :
    after.child? other = some kept := by
  cases writes with
  | field first =>
    have away : segment.name ≠ other.name := fun same => differ (by rw [placeOf, placeOf, same])
    rw [child?, Keyed.get?_append, Keyed.get?, if_neg away] at found ⊢
    exact found
  | newField absent =>
    rw [child?] at found ⊢
    rw [Keyed.get?_append, found, Option.some_or]
  | item here =>
    rename_i front back old
    obtain ⟨position, there, item⟩ := Option.bind_eq_some_iff.mp found
    have away : position ≠ front.length := by
      rintro rfl
      exact differ (by rw [placeOf, placeOf, here, there])
    rw [child?, there, Option.bind_some]
    rcases Nat.lt_or_gt_of_ne away with before | behind
    · rwa [List.getElem?_append_left before] at item ⊢
    · obtain ⟨further, rfl⟩ := Nat.exists_eq_add_of_lt behind
      rw [List.getElem?_append_right (by omega)] at item ⊢
      have index : front.length + further + 1 - front.length = further + 1 := by omega
      rwa [index, List.getElem?_cons_succ] at item ⊢
  | newItem =>
    obtain ⟨position, there, item⟩ := Option.bind_eq_some_iff.mp found
    have inside := (List.getElem?_eq_some_iff.mp item).1
    rw [child?, there, Option.bind_some, List.append_assoc, List.getElem?_append_left inside, item]
  | opened => cases found

/-- A way through the place of the child goes on in the child. -/
theorem get?_through (writes : WritesChild segment child value after) (same : value.placeOf segment = value.placeOf other)
    (there : value.child? other = some kept) (way : Path) : after.get? (other :: way) = child.get? way := by
  have filled : value.isNull = false := by cases value <;> first | rfl | cases there
  have same' : after.placeOf segment = after.placeOf other := by
    rw [placeOf_of_writesChild writes filled, placeOf_of_writesChild writes filled, same]
  rw [get?_cons, ← child?_congr same', child?_of_writesChild writes, Option.bind_some]

/-- A way through another place leads where it led. -/
theorem get?_beside (writes : WritesChild segment child value after) (differ : value.placeOf segment ≠ value.placeOf other)
    (found : value.get? (other :: way) = some kept) : after.get? (other :: way) = some kept := by
  obtain ⟨next, there, below⟩ := Option.bind_eq_some_iff.mp found
  rw [get?_cons, child?_of_writesChild_of_ne writes differ there]
  exact below

/-! ## A whole write -/

theorem get?_setAt (written : setAt new path value = .ok changed) : changed.get? path = some new := by
  induction path generalizing value changed with
  | nil =>
    cases written
    rfl
  | cons segment rest ih =>
    obtain ⟨child, inner, writes⟩ := setAt_cons_ok written
    rw [get?_cons, child?_of_writesChild writes, Option.bind_some]
    exact ih inner

theorem get?_setAt_of_parts (parts : Parts value path way) (found : value.get? way = some kept)
    (written : setAt new path value = .ok changed) : changed.get? way = some kept := by
  induction parts generalizing changed with
  | here differ =>
    obtain ⟨child, _, writes⟩ := setAt_cons_ok written
    exact get?_beside writes differ found
  | later same next parts ih =>
    obtain ⟨child, inner, writes⟩ := setAt_cons_ok written
    have there := (child?_congr same).symm.trans next
    rw [next] at inner
    rw [get?_cons, there] at found
    rw [get?_through writes same there]
    exact ih found inner

theorem getD_get?_cons (value : Json) (segment : Segment) (way : Path) :
    (value.get? (segment :: way)).getD .null = (((value.child? segment).getD .null).get? way).getD .null := by
  rw [get?_cons]
  cases value.child? segment with
  | some child => rfl
  | none => cases way <;> rfl

/-- Every value on the way of a write gets one new child. -/
theorem writesChild_of_setAt (written : setAt new (way ++ segment :: rest) value = .ok changed) :
    ∃ node child, changed.get? way = some node ∧ WritesChild segment child ((value.get? way).getD .null) node := by
  induction way generalizing value changed with
  | nil =>
    obtain ⟨child, _, writes⟩ := setAt_cons_ok written
    exact ⟨changed, child, rfl, writes⟩
  | cons first way ih =>
    obtain ⟨below, inner, writes⟩ := setAt_cons_ok written
    obtain ⟨node, child, there, grown⟩ := ih inner
    refine ⟨node, child, ?_, ?_⟩
    · rw [get?_cons, child?_of_writesChild writes]
      exact there
    · rwa [getD_get?_cons]

/-- What a write gives. -/
structure Writes (path : Path) (new before after : Json) : Prop where
  reads : after.get? path = some new
  keeps : ∀ away kept, Parts before path away → before.get? away = some kept → after.get? away = some kept
  grows : ∀ way segment rest, path = way ++ segment :: rest → ∃ node child, after.get? way = some node ∧
    WritesChild segment child ((before.get? way).getD .null) node

theorem setAt_of_set (written : value.set path new = .ok changed) : setAt new path value = .ok changed := by
  rw [set] at written
  split at written
  · cases written
  · exact written

theorem writes_of_setAt (written : setAt new path value = .ok changed) : Writes path new value changed := by
  refine ⟨get?_setAt written, ?_, ?_⟩
  · intro away kept parts found
    exact get?_setAt_of_parts parts found written
  · rintro way segment rest rfl
    exact writesChild_of_setAt written

/-- After a write the path has the new value, and every path that parts from it has the value that it had. Each value on
the way keeps its fields and items in their order, but for the child that the path goes on to. A new field comes last,
and new items before that of the path are null. -/
theorem set_writes (written : value.set path new = .ok changed) : Writes path new value changed :=
  writes_of_setAt (setAt_of_set written)

/-- A value with one tag, and a field whose name is a number. -/
def tagged : Json := .object [("tags", .array [.text "a"]), ("0", .object [("x", .bool true)])]

/-- A tag is written two places behind the last one; a number before a dot is the name of a field. -/
theorem set_writes_tagged :
    tagged.set (Path.ofText "tags[3].0") (.text "d") = .ok (.object
      [("tags", .array [.text "a", .null, .null, .object [("0", .text "d")]]), ("0", .object [("x", .bool true)])]) ∧
    Writes (Path.ofText "tags[3].0") (.text "d") tagged (.object
      [("tags", .array [.text "a", .null, .null, .object [("0", .text "d")]]), ("0", .object [("x", .bool true)])]) :=
  ⟨rfl, set_writes rfl⟩

end Junction.Json
