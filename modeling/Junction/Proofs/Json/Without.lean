import Junction.Proofs.Data.Onward
import Junction.Proofs.Json.Removal

/-!
A value without some of its places, all taken out at once (`without`). A removal from what is left takes out one more
place: the one that the path leads to when it counts only the items that still stand (`delete?_without`).
-/

namespace Junction.Json

variable {segment : Segment} {path rest : Path} {value child : Json} {gone more : List (List Place)} {place : Place}
  {places : List Place} {name : String} {items front back : List Json} {fields : List (String × Json)}

deriving instance DecidableEq for Place

/-- A value in which no object has two fields of one name. -/
inductive Distinct : Json → Prop where
  | null : Distinct .null
  | bool (value : Bool) : Distinct (.bool value)
  | number (value : Number) : Distinct (.number value)
  | text (value : String) : Distinct (.text value)
  | array {items : List Json} (each : ∀ item ∈ items, Distinct item) : Distinct (.array items)
  | object {fields : List (String × Json)} (once : (fields.map (·.1)).Nodup) (each : ∀ field ∈ fields, Distinct field.2) :
    Distinct (.object fields)

attribute [simp] Distinct.null Distinct.bool Distinct.number Distinct.text

@[simp] theorem distinct_array : Distinct (.array items) ↔ ∀ item ∈ items, Distinct item :=
  ⟨fun | .array each => each, .array⟩

@[simp] theorem distinct_object :
    Distinct (.object fields) ↔ (fields.map (·.1)).Nodup ∧ ∀ field ∈ fields, Distinct field.2 :=
  ⟨fun | .object once each => ⟨once, each⟩, fun both => .object both.1 both.2⟩

/-! ## Without places -/

/-- A value without the places that are listed, each by the way to it: children that are listed are left out, and the
others are kept in their order, without what is listed inside them. -/
def without (gone : List (List Place)) : Json → Json
  | .array items => .array (withoutItems gone 0 items)
  | .object fields => .object (withoutFields gone fields)
  | scalar => scalar
where
  /-- Items that begin at a position. -/
  withoutItems (gone : List (List Place)) : Nat → List Json → List Json
    | _, [] => []
    | position, item :: rest =>
      if [.item position] ∈ gone then withoutItems gone (position + 1) rest
      else without (onward (.item position) gone) item :: withoutItems gone (position + 1) rest
  /-- Fields. -/
  withoutFields (gone : List (List Place)) : List (String × Json) → List (String × Json)
    | [] => []
    | (name, value) :: rest =>
      if [.field name] ∈ gone then withoutFields gone rest
      else (name, without (onward (.field name) gone) value) :: withoutFields gone rest

open without (withoutItems withoutFields)

theorem withoutItems_append (gone : List (List Place)) (start : Nat) (front back : List Json) :
    withoutItems gone start (front ++ back) =
      withoutItems gone start front ++ withoutItems gone (start + front.length) back := by
  induction front generalizing start with
  | nil => rfl
  | cons item front ih =>
    have further : start + (item :: front).length = start + 1 + front.length := by rw [List.length_cons]; omega
    rw [List.cons_append, withoutItems, withoutItems, ih, further]
    split <;> rfl

theorem length_withoutItems_le (gone : List (List Place)) (start : Nat) (items : List Json) :
    (withoutItems gone start items).length ≤ items.length := by
  induction items generalizing start with
  | nil => exact Nat.le_refl 0
  | cons item items ih =>
    have others := ih (start + 1)
    rw [withoutItems]
    split <;> simp only [List.length_cons] <;> omega

theorem withoutFields_append (gone : List (List Place)) (front back : List (String × Json)) :
    withoutFields gone (front ++ back) = withoutFields gone front ++ withoutFields gone back := by
  induction front with
  | nil => rfl
  | cons field front ih =>
    obtain ⟨name, value⟩ := field
    rw [List.cons_append, withoutFields, withoutFields, ih]
    split <;> rfl

theorem withoutItems_congr {start : Nat} (same : ∀ position child, items[position]? = some child →
      ([.item (start + position)] ∈ gone ↔ [.item (start + position)] ∈ more) ∧
      ([.item (start + position)] ∉ gone →
        child.without (onward (.item (start + position)) gone) = child.without (onward (.item (start + position)) more))) :
    withoutItems gone start items = withoutItems more start items := by
  induction items generalizing start with
  | nil => rfl
  | cons item items ih =>
    obtain ⟨listed, inner⟩ := same 0 item rfl
    have others : withoutItems gone (start + 1) items = withoutItems more (start + 1) items := by
      apply ih
      intro position child found
      have next := same (position + 1) child found
      rwa [show start + (position + 1) = start + 1 + position by omega] at next
    rw [Nat.add_zero] at listed inner
    rw [withoutItems, withoutItems, others]
    by_cases here : [.item start] ∈ gone
    · rw [if_pos here, if_pos (listed.mp here)]
    · rw [if_neg here, if_neg (mt listed.mpr here), inner here]

theorem withoutFields_congr (same : ∀ field ∈ fields,
      ([.field field.1] ∈ gone ↔ [.field field.1] ∈ more) ∧
      ([.field field.1] ∉ gone →
        field.2.without (onward (.field field.1) gone) = field.2.without (onward (.field field.1) more))) :
    withoutFields gone fields = withoutFields more fields := by
  induction fields with
  | nil => rfl
  | cons field fields ih =>
    obtain ⟨listed, inner⟩ := same field List.mem_cons_self
    have others := ih fun other member => same other (List.mem_cons_of_mem _ member)
    obtain ⟨name, value⟩ := field
    rw [withoutFields, withoutFields, others]
    by_cases here : [.field name] ∈ gone
    · rw [if_pos here, if_pos (listed.mp here)]
    · rw [if_neg here, if_neg (mt listed.mpr here), inner here]

theorem mem_names_withoutFields :
    name ∈ (withoutFields gone fields).map (·.1) ↔ [.field name] ∉ gone ∧ name ∈ fields.map (·.1) := by
  induction fields with
  | nil => simp [withoutFields]
  | cons field fields ih =>
    obtain ⟨other, value⟩ := field
    rw [withoutFields]
    split
    · rename_i listed
      rw [ih, List.map_cons, List.mem_cons]
      constructor
      · exact fun ⟨kept, member⟩ => ⟨kept, .inr member⟩
      · rintro ⟨kept, rfl | member⟩
        · exact absurd listed kept
        · exact ⟨kept, member⟩
    · rename_i kept
      rw [List.map_cons, List.mem_cons, ih, List.map_cons, List.mem_cons]
      constructor
      · rintro (rfl | ⟨stays, member⟩)
        · exact ⟨kept, .inl rfl⟩
        · exact ⟨stays, .inr member⟩
      · rintro ⟨stays, rfl | member⟩
        · exact .inl rfl
        · exact .inr ⟨stays, member⟩

theorem withoutItems_nil (whole : ∀ item ∈ items, item.without [] = item) (start : Nat) :
    withoutItems [] start items = items := by
  induction items generalizing start with
  | nil => rfl
  | cons item items ih =>
    rw [withoutItems, if_neg List.not_mem_nil, onward, List.filterMap_nil, whole item List.mem_cons_self,
      ih fun other member => whole other (List.mem_cons_of_mem _ member)]

theorem withoutFields_nil (whole : ∀ field ∈ fields, field.2.without [] = field.2) : withoutFields [] fields = fields := by
  induction fields with
  | nil => rfl
  | cons field fields ih =>
    have first := whole field List.mem_cons_self
    obtain ⟨name, value⟩ := field
    rw [withoutFields, if_neg List.not_mem_nil, onward, List.filterMap_nil, first,
      ih fun other member => whole other (List.mem_cons_of_mem _ member)]

/-- Nothing is left out when nothing is listed. -/
theorem without_nil (distinct : Distinct value) : value.without [] = value := by
  induction distinct with
  | null | bool | number | text => rfl
  | array _ whole => rw [without, withoutItems_nil whole]
  | object _ _ whole => rw [without, withoutFields_nil whole]

/-- What is left depends only on what the places span. -/
theorem without_congr (distinct : Distinct value) (same : SameSpan gone more) (below : [] ∉ gone) :
    value.without gone = value.without more := by
  induction distinct generalizing gone more with
  | null | bool | number | text => rfl
  | array _ inner =>
    rw [without, without, withoutItems_congr]
    intro position child found
    refine ⟨same.mem_iff below _, fun kept => ?_⟩
    exact inner child (List.mem_of_getElem? found) (same.onward below _) (mt mem_onward.mp kept)
  | object _ _ inner =>
    rw [without, without, withoutFields_congr]
    intro field member
    refine ⟨same.mem_iff below _, fun kept => ?_⟩
    exact inner field member (same.onward below _) (mt mem_onward.mp kept)

/-- One more place concerns only the child that it is in. -/
theorem unaffected {other : Place} (differ : place ≠ other) (gone : List (List Place)) (places : List Place) :
    ([other] ∈ gone ++ [place :: places] ↔ [other] ∈ gone) ∧ onward other (gone ++ [place :: places]) = onward other gone := by
  constructor
  · simp [Ne.symm differ]
  · rw [onward_append, onward_of_ne differ, List.append_nil]

/-! ## What still stands -/

/-- The item at a position among those that still stand, with its position among all. -/
def standingItem? (gone : List (List Place)) : (start count : Nat) → List Json → Option (Nat × Json)
  | _, _, [] => none
  | start, count, item :: rest =>
    if [.item start] ∈ gone then standingItem? gone (start + 1) count rest
    else match count with
      | 0 => some (start, item)
      | count + 1 => standingItem? gone (start + 1) count rest

/-- The child that a segment leads to when only those count that still stand, and its place among all. -/
def standing? (gone : List (List Place)) (value : Json) (segment : Segment) : Option (Place × Json) :=
  match value with
  | .object fields =>
    if [.field segment.name] ∈ gone then none
    else (Keyed.get? segment.name fields).map fun child => (.field segment.name, child)
  | .array items =>
    segment.position?.bind fun position =>
      (standingItem? gone 0 position items).map fun item => (.item item.1, item.2)
  | _ => none

/-- The place in the whole value that a path leads to in what is left of it. -/
def origin (gone : List (List Place)) (value : Json) : Path → Option (List Place)
  | [] => some []
  | segment :: rest => (standing? gone value segment).bind fun child =>
      (origin (onward child.1 gone) child.2 rest).map (child.1 :: ·)

theorem standing?_object_some : standing? gone (.object fields) segment = some (place, child) ↔
    [.field segment.name] ∉ gone ∧ Keyed.get? segment.name fields = some child ∧ .field segment.name = place := by
  rw [standing?]
  split
  · rename_i out
    simp [out]
  · rename_i kept
    simp [kept, and_comm]

theorem standing?_array_some : standing? gone (.array items) segment = some (place, child) ↔
    ∃ count position, segment.position? = some count ∧ standingItem? gone 0 count items = some (position, child) ∧
      .item position = place := by
  simp only [standing?, Option.bind_eq_some_iff, Option.map_eq_some_iff, Prod.exists, Prod.mk.injEq]
  constructor
  · rintro ⟨count, addressed, position, _, here, same, rfl⟩
    exact ⟨count, position, addressed, here, same⟩
  · rintro ⟨count, position, addressed, here, same⟩
    exact ⟨count, addressed, position, child, here, same, rfl⟩

theorem origin_cons_some : origin gone value (segment :: rest) = some places ↔
    ∃ place child inner, standing? gone value segment = some (place, child) ∧
      origin (onward place gone) child rest = some inner ∧ place :: inner = places := by
  simp only [origin, Option.bind_eq_some_iff, Option.map_eq_some_iff, Prod.exists]
  constructor
  · rintro ⟨place, child, stands, inner, below, same⟩
    exact ⟨place, child, inner, stands, below, same⟩
  · rintro ⟨place, child, inner, stands, below, same⟩
    exact ⟨place, child, stands, inner, below, same⟩

theorem standingItem?_gone {start count : Nat} (listed : [.item start] ∈ gone) (item : Json) :
    standingItem? gone start count (item :: items) = standingItem? gone (start + 1) count items := by
  rw [standingItem?.eq_def]
  exact if_pos listed

theorem standingItem?_zero {start : Nat} (stands : [.item start] ∉ gone) (item : Json) :
    standingItem? gone start 0 (item :: items) = some (start, item) := by
  rw [standingItem?.eq_def]
  exact if_neg stands

theorem standingItem?_succ {start : Nat} (stands : [.item start] ∉ gone) (count : Nat) (item : Json) :
    standingItem? gone start (count + 1) (item :: items) = standingItem? gone (start + 1) count items := by
  rw [standingItem?.eq_def]
  exact if_neg stands

/-- The items that still stand are those that are left. -/
theorem getElem?_withoutItems (gone : List (List Place)) (start count : Nat) (items : List Json) :
    (withoutItems gone start items)[count]? =
      (standingItem? gone start count items).map fun item => item.2.without (onward (.item item.1) gone) := by
  induction items generalizing start count with
  | nil => rfl
  | cons item items ih =>
    by_cases listed : [.item start] ∈ gone
    · rw [withoutItems, if_pos listed, standingItem?_gone listed, ih]
    · rw [withoutItems, if_neg listed]
      cases count with
      | zero => rw [standingItem?_zero listed, List.getElem?_cons_zero, Option.map_some]
      | succ count => rw [standingItem?_succ listed, List.getElem?_cons_succ, ih]

theorem split_of_standingItem? {start count position : Nat}
    (found : standingItem? gone start count items = some (position, child)) :
    ∃ front back, items = front ++ child :: back ∧ position = start + front.length ∧ [.item position] ∉ gone ∧
      (withoutItems gone start front).length = count := by
  induction items generalizing start count with
  | nil => cases found
  | cons item items ih =>
    by_cases listed : [.item start] ∈ gone
    · rw [standingItem?_gone listed] at found
      obtain ⟨front, back, rfl, rfl, kept, length⟩ := ih found
      refine ⟨item :: front, back, rfl, by rw [List.length_cons]; omega, kept, ?_⟩
      rw [withoutItems, if_pos listed, length]
    · cases count with
      | zero =>
        rw [standingItem?_zero listed] at found
        cases found
        exact ⟨[], items, rfl, rfl, listed, rfl⟩
      | succ count =>
        rw [standingItem?_succ listed] at found
        obtain ⟨front, back, rfl, rfl, kept, length⟩ := ih found
        refine ⟨item :: front, back, rfl, by rw [List.length_cons]; omega, kept, ?_⟩
        rw [withoutItems, if_neg listed, List.length_cons, length]

theorem get?_withoutFields (gone : List (List Place)) (name : String) (fields : List (String × Json)) :
    Keyed.get? name (withoutFields gone fields) =
      if [.field name] ∈ gone then none
      else (Keyed.get? name fields).map fun child => child.without (onward (.field name) gone) := by
  induction fields with
  | nil => rw [withoutFields, Keyed.get?, Option.map_none, ite_self]
  | cons field fields ih =>
    obtain ⟨key, value⟩ := field
    rw [withoutFields, Keyed.get?]
    by_cases same : key = name
    · subst same
      by_cases listed : [.field key] ∈ gone
      · rw [if_pos listed, ih, if_pos listed, if_pos listed]
      · rw [if_neg listed, if_neg listed, if_pos rfl, Keyed.get?, if_pos rfl, Option.map_some]
    · rw [if_neg same]
      split
      · exact ih
      · rw [Keyed.get?, if_neg same, ih]

/-- A child of what is left is a child that still stands, without what is listed inside it. -/
theorem child?_without (gone : List (List Place)) (value : Json) (segment : Segment) :
    (value.without gone).child? segment =
      (standing? gone value segment).map fun child => child.2.without (onward child.1 gone) := by
  cases value with
  | object fields =>
    rw [without, child?, get?_withoutFields, standing?]
    split
    · rfl
    · rw [Option.map_map]
      rfl
  | array items =>
    rw [without, child?, standing?]
    cases segment.position? with
    | none => rfl
    | some position =>
      rw [Option.bind_some, Option.bind_some, getElem?_withoutItems, Option.map_map]
      rfl
  | null | bool | number | text => rfl

/-! ## One more place -/

theorem withoutItems_extend {start : Nat} (front : List Json) (child : Json) (back : List Json)
    (stands : [.item (start + front.length)] ∉ gone) (places : List Place) :
    withoutItems (gone ++ [.item (start + front.length) :: places]) start (front ++ child :: back) =
      withoutItems gone start front ++
        ((if places = [] then []
          else [child.without (onward (.item (start + front.length)) gone ++ [places])]) ++
          withoutItems gone (start + front.length + 1) back) := by
  have before : withoutItems (gone ++ [.item (start + front.length) :: places]) start front = withoutItems gone start front := by
    apply withoutItems_congr
    intro position item found
    have inside : position < front.length := (List.getElem?_eq_some_iff.mp found).1
    have differ : Place.item (start + front.length) ≠ .item (start + position) := by simp; omega
    obtain ⟨listed, rests⟩ := unaffected differ gone places
    exact ⟨listed, fun _ => by rw [rests]⟩
  have behind : withoutItems (gone ++ [.item (start + front.length) :: places]) (start + front.length + 1) back =
      withoutItems gone (start + front.length + 1) back := by
    apply withoutItems_congr
    intro position item _
    have differ : Place.item (start + front.length) ≠ .item (start + front.length + 1 + position) := by simp; omega
    obtain ⟨listed, rests⟩ := unaffected differ gone places
    exact ⟨listed, fun _ => by rw [rests]⟩
  rw [withoutItems_append, before, withoutItems, behind, onward_append, onward_self]
  by_cases last : places = []
  · rw [if_pos last, if_pos (by simp [last]), List.nil_append]
  · rw [if_neg last, if_neg (by simp [last, stands]), List.singleton_append]

theorem withoutFields_extend {front back : List (String × Json)} (ahead : name ∉ front.map (·.1))
    (further : name ∉ back.map (·.1)) (stands : [.field name] ∉ gone) (child : Json) (places : List Place) :
    withoutFields (gone ++ [.field name :: places]) (front ++ (name, child) :: back) =
      withoutFields gone front ++
        ((if places = [] then [] else [(name, child.without (onward (.field name) gone ++ [places]))]) ++
          withoutFields gone back) := by
  have others : ∀ {fields : List (String × Json)}, name ∉ fields.map (·.1) →
      withoutFields (gone ++ [.field name :: places]) fields = withoutFields gone fields := by
    intro fields absent
    apply withoutFields_congr
    intro field member
    have differ : Place.field name ≠ .field field.1 := by
      rintro same
      cases same
      exact absent (List.mem_map_of_mem member)
    obtain ⟨listed, rests⟩ := unaffected differ gone places
    exact ⟨listed, fun _ => by rw [rests]⟩
  rw [withoutFields_append, others ahead, withoutFields, others further, onward_append, onward_self]
  by_cases last : places = []
  · rw [if_pos last, if_pos (by simp [last]), List.nil_append]
  · rw [if_neg last, if_neg (by simp [last, stands]), List.singleton_append]

/-- Where the child that still stands is, among the items or fields before it and behind it. -/
inductive Stands (gone : List (List Place)) (segment : Segment) (child : Json) : Json → Place → Prop where
  | field {front back : List (String × Json)} (ahead : segment.name ∉ front.map (·.1))
    (further : segment.name ∉ back.map (·.1)) :
    Stands gone segment child (.object (front ++ (segment.name, child) :: back)) (.field segment.name)
  | item {front back : List Json} (addressed : segment.position? = some (withoutItems gone 0 front).length) :
    Stands gone segment child (.array (front ++ child :: back)) (.item front.length)

theorem stands_of_standing? (distinct : Distinct value) (found : standing? gone value segment = some (place, child)) :
    [place] ∉ gone ∧ Stands gone segment child value place := by
  cases distinct with
  | object once =>
    rename_i fields
    obtain ⟨stands, here, rfl⟩ := standing?_object_some.mp found
    obtain ⟨front, back, ahead, rfl⟩ := Keyed.exists_of_get? here
    rw [List.map_append, List.map_cons, List.nodup_append, List.nodup_cons] at once
    exact ⟨stands, .field ahead once.2.1.1⟩
  | array =>
    obtain ⟨_, _, addressed, here, rfl⟩ := standing?_array_some.mp found
    obtain ⟨front, back, rfl, rfl, stands, rfl⟩ := split_of_standingItem? here
    rw [Nat.zero_add] at stands ⊢
    exact ⟨stands, .item addressed⟩
  | null | bool | number | text => cases found

theorem Stands.distinct (stands : Stands gone segment child value place) (distinct : Distinct value) : Distinct child := by
  cases stands with
  | field =>
    cases distinct with
    | object once each => exact each (_, child) (List.mem_append_right _ List.mem_cons_self)
  | item =>
    cases distinct with
    | array each => exact each child (List.mem_append_right _ List.mem_cons_self)

theorem removeChild?_without (stands : Stands gone segment child value place) (kept : [place] ∉ gone) :
    (value.without gone).removeChild? segment = some (value.without (gone ++ [[place]])) := by
  cases stands with
  | field ahead further =>
    have ahead' := mt mem_names_withoutFields.mp (not_and_of_not_right ([.field segment.name] ∉ gone) ahead)
    rw [without, without, withoutFields_extend ahead further kept child [], if_pos rfl, List.nil_append,
      withoutFields_append, withoutFields, if_neg kept, removeChild?, Keyed.contains, Keyed.get?_of_first ahead',
      Keyed.erase_of_first ahead']
    rfl
  | item addressed =>
    rename_i front back
    rw [← Nat.zero_add front.length] at kept ⊢
    rw [without, without, withoutItems_extend front child back kept [], if_pos rfl, List.nil_append,
      withoutItems_append, withoutItems, if_neg kept, removeChild?, addressed, Option.bind_some,
      if_pos (by simp), List.eraseIdx_append_of_length_le (Nat.le_refl _), Nat.sub_self, List.eraseIdx_cons_zero]

theorem replaceChild_without (stands : Stands gone segment child value place) (kept : [place] ∉ gone)
    (inside : places ≠ []) :
    (value.without gone).replaceChild segment (child.without (onward place gone ++ [places])) =
      value.without (gone ++ [place :: places]) := by
  cases stands with
  | field ahead further =>
    have ahead' := mt mem_names_withoutFields.mp (not_and_of_not_right ([.field segment.name] ∉ gone) ahead)
    rw [without, without, withoutFields_extend ahead further kept child places, if_neg inside, List.singleton_append,
      withoutFields_append, withoutFields, if_neg kept, replaceChild, Keyed.put_of_first ahead']
  | item addressed =>
    rename_i front back
    rw [← Nat.zero_add front.length] at kept ⊢
    rw [without, without, withoutItems_extend front child back kept places, if_neg inside, List.singleton_append,
      withoutItems_append, withoutItems, if_neg kept, replaceChild, addressed, Option.map_some, Option.getD_some,
      List.set_append_right _ _ (Nat.le_refl _), Nat.sub_self, List.set_cons_zero]

theorem length_of_origin (found : origin gone value path = some places) : places.length = path.length := by
  induction path generalizing gone value places with
  | nil =>
    cases found
    rfl
  | cons segment rest ih =>
    obtain ⟨place, child, inner, _, below, rfl⟩ := origin_cons_some.mp found
    rw [List.length_cons, List.length_cons, ih below]

/-- A removal from what is left takes out one more place: the one that the path leads to there. -/
theorem delete?_without (distinct : Distinct value) (filled : path ≠ []) (gone : List (List Place)) :
    delete? path (value.without gone) = (origin gone value path).map fun places => value.without (gone ++ [places]) := by
  induction path generalizing value gone with
  | nil => exact absurd rfl filled
  | cons segment rest ih =>
    rw [origin]
    cases found : standing? gone value segment with
    | none =>
      have absent : (value.without gone).child? segment = none := by rw [child?_without, found, Option.map_none]
      rw [Option.bind_none, Option.map_none, ← Option.not_isSome_iff_eq_none, delete?_isSome filled, get?_cons, absent]
      simp
    | some standing =>
      obtain ⟨place, child⟩ := standing
      obtain ⟨kept, stands⟩ := stands_of_standing? distinct found
      rw [Option.bind_some]
      -- the last segment removes its child, one before it puts back what is left of its child
      by_cases last : rest = []
      · subst last
        exact removeChild?_without stands kept
      · rw [delete?_cons last, child?_without, found, Option.map_some, Option.bind_some,
          ih (stands.distinct distinct) last, Option.map_map, Option.map_map]
        apply Option.map_congr
        intro places below
        have inside : places ≠ [] := by
          rintro rfl
          exact last (List.length_eq_zero_iff.mp (length_of_origin below).symm)
        exact replaceChild_without stands kept inside

end Junction.Json
