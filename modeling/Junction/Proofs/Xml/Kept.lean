import Junction.Proofs.Json.Write
import Junction.Proofs.Xml.Decoded
import Mathlib.Data.List.Flatten
import Mathlib.Data.List.Perm.Subperm

/-!
Which names an XML body keeps when it is written again, as it is or after an edit. A write to where nothing is leaves all
places of a value (`sublist_setAt`), so what is lost is lost by the spelling of names (`keepsNames_grown`).
-/

namespace Junction.Xml
open Json (setAt WritesChild)
open Markup (shown)

variable {key : String} {value changed : Json}

/-! ## What a write leaves -/

theorem sublist_replaced {α β : Type} {part : α → List β} {old new : α} (each : (part old).Sublist (part new))
    (front back : List α) : ((front ++ old :: back).flatMap part).Sublist ((front ++ new :: back).flatMap part) := by
  rw [List.flatMap_append, List.flatMap_append, List.flatMap_cons, List.flatMap_cons]
  exact (each.append_right _).append_left _

theorem elementPlaces_head (around : List String) (key : String) (value : Json) :
    ∃ rest, elementPlaces around key value = ⟨spelled key :: around, none⟩ :: rest := by
  cases value with
  | null | bool | number | text => exact ⟨_, rfl⟩
  | array items => exact ⟨_, elementPlaces_array around key items⟩
  | object fields => exact ⟨_, elementPlaces_object around key fields⟩

/-- The place of an attribute. -/
def attributePlaces (path : List String) (field : String × Json) : List Place :=
  (attributesOf [field]).map fun pair => ⟨path, some pair.1⟩

theorem tagPlaces_attributesOf (path : List String) (fields : List (String × Json)) :
    tagPlaces path (attributesOf fields) = ⟨path, none⟩ :: fields.flatMap (attributePlaces path) := by
  rw [tagPlaces]
  congr 1
  induction fields with
  | nil => rfl
  | cons field fields ih => rw [attributesOf_cons, List.map_append, ih, List.flatMap_cons, attributePlaces]

theorem attributePlaces_congr (path : List String) (name : String) (value other : Json) :
    attributePlaces path (name, value) = attributePlaces path (name, other) := by
  cases isName : isAttribute name <;> simp [attributePlaces, attributesOf, isName]

theorem sublist_tag {fields more : List (String × Json)} {around : List String} {key : String}
    (attributes : (fields.flatMap (attributePlaces (spelled key :: around))).Sublist
      (more.flatMap (attributePlaces (spelled key :: around))))
    (elements : (fields.flatMap (fieldPlaces (spelled key :: around))).Sublist
      (more.flatMap (fieldPlaces (spelled key :: around)))) :
    (elementPlaces around key (.object fields)).Sublist (elementPlaces around key (.object more)) := by
  rw [elementPlaces_object, elementPlaces_object, tagPlaces_attributesOf, tagPlaces_attributesOf]
  exact List.Sublist.append (List.Sublist.cons_cons _ attributes) elements

theorem itemsOf_ne_nil {segment : Json.Segment} {child : Json} (writes : WritesChild segment child value changed) :
    changed.itemsOf ≠ [] := by
  induction writes with
  | field | newField => exact List.cons_ne_nil _ _
  | item | newItem => simp [Json.itemsOf]
  | opened _ ih => exact ih

/-- A write into null gives an element, or items of which there is at least one. -/
theorem sublist_opened {segment : Json.Segment} {child : Json} (writes : WritesChild segment child .null changed)
    (around : List String) (key : String) :
    (elementPlaces around key .null).Sublist (elementPlaces around key changed) ∧
      (elementPlaces around key .null).Sublist (changed.itemsOf.flatMap (elementPlaces around key)) := by
  have alone : ∀ value, (elementPlaces around key .null).Sublist (elementPlaces around key value) := by
    intro value
    obtain ⟨rest, head⟩ := elementPlaces_head around key value
    rw [head]
    exact List.singleton_sublist.mpr List.mem_cons_self
  obtain ⟨first, more, split⟩ := List.exists_cons_of_ne_nil (itemsOf_ne_nil writes)
  rw [split, List.flatMap_cons]
  exact ⟨alone changed, (alone first).trans (List.sublist_append_left _ _)⟩

/-- A write to where nothing is leaves the places that there are, of the element of the value and of elements of its
items. -/
theorem sublist_setAt {path : Json.Path} {new : Json} (absent : value.get? path = none)
    (written : setAt new path value = .ok changed) (around : List String) (key : String) :
    (elementPlaces around key value).Sublist (elementPlaces around key changed) ∧
      (value.itemsOf.flatMap (elementPlaces around key)).Sublist (changed.itemsOf.flatMap (elementPlaces around key)) := by
  induction path generalizing value changed around key with
  | nil => cases absent
  | cons segment rest ih =>
    obtain ⟨child, inner, writes⟩ := Json.setAt_cons_ok written
    have below : ∀ old, value.child? segment = some old → old.get? rest = none ∧ setAt new rest old = .ok child := by
      intro old there
      rw [Json.get?_cons, there, Option.bind_some] at absent
      rw [there, Option.getD_some] at inner
      exact ⟨absent, inner⟩
    cases writes with
    | opened grown =>
      simp only [Json.itemsOf, List.flatMap_singleton]
      exact sublist_opened (.opened grown) around key
    | @field front back old first =>
      obtain ⟨nothing, goesOn⟩ := below old (Keyed.get?_of_first first old back)
      simp only [Json.itemsOf, List.flatMap_singleton, and_self]
      apply sublist_tag
      · refine sublist_replaced ?_ front back
        rw [attributePlaces_congr _ _ old child]
      · refine sublist_replaced ?_ front back
        by_cases element : IsElement segment.name
        · rw [fieldPlaces_element element, fieldPlaces_element element]
          exact (ih nothing goesOn _ _).2
        · rw [fieldPlaces_other element]
          exact List.nil_sublist _
    | newField =>
      simp only [Json.itemsOf, List.flatMap_singleton, and_self]
      apply sublist_tag <;> exact (List.sublist_append_left _ _).flatMap _
    | @item front back old found =>
      have there : (Json.array (front ++ old :: back)).child? segment = some old := by simp [Json.child?, found]
      obtain ⟨nothing, goesOn⟩ := below old there
      have each : ∀ around key, (elementPlaces around key old).Sublist (elementPlaces around key child) :=
        fun around key => (ih nothing goesOn around key).1
      -- the items are inside one element, or are elements themselves when the array is a field
      rw [elementPlaces_array, elementPlaces_array, Json.itemsOf, Json.itemsOf]
      exact ⟨(sublist_replaced (each _ _) front back).append_left _, sublist_replaced (each _ _) front back⟩
    | newItem =>
      rw [elementPlaces_array, elementPlaces_array, Json.itemsOf, Json.itemsOf, List.append_assoc]
      exact ⟨((List.sublist_append_left _ _).flatMap _).append_left _, (List.sublist_append_left _ _).flatMap _⟩

/-! ## What an edit leaves -/

/-- A value after an edit outside of all that is in it: the same, or with a write to where nothing is. -/
inductive Grown (value : Json) : Json → Prop where
  | same : Grown value value
  | written {path : Json.Path} {new changed : Json} (absent : value.get? path = none)
      (written : setAt new path value = .ok changed) : Grown value changed

theorem grown_modify {action : Action} (adds : action ∈ [Action.add, .append, .set]) {key : String} {argument : Json}
    (absent : value.get? (Json.Path.ofText key) = none) (modified : Change.modify value action key argument = .ok changed) :
    Grown value changed := by
  have none : Change.existing? value (Json.Path.ofText key) = none := by rw [Change.existing?, absent]; rfl
  have set : value.set (Json.Path.ofText key) argument = .ok changed → Grown value changed := by
    intro written
    rw [Json.set] at written
    split at written
    · cases written
    · exact .written absent written
  rw [Change.modify] at modified
  split at modified
  · cases modified
    exact .same
  · simp only [List.mem_cons, List.not_mem_nil, or_false] at adds
    rcases adds with rfl | rfl | rfl
    · simp only [Change.modifyAt, none] at modified
      exact set modified
    · simp only [Change.modifyAt, none] at modified
      cases modified
      exact .same
    · rw [Change.modifyAt] at modified
      exact set modified

/-- The element that is written around the value of a document: none if the value is that of one element. -/
def enclosing (value : Json) : List String :=
  match value with
  | .object [(key, _)] => if isAttribute key || key == textName then [rootName] else []
  | _ => [rootName]

theorem rooted_cases (value : Json) :
    (∃ key inner, value = .object [(key, inner)] ∧ rooted value = (key, inner) ∧ enclosing value = []) ∨
      (rooted value = (rootName, value) ∧ enclosing value = [rootName]) := by
  cases value with
  | null | bool | number | text | array => exact .inr ⟨rfl, rfl⟩
  | object fields =>
    match fields with
    | [] | _ :: _ :: _ => exact .inr ⟨rfl, rfl⟩
    | [(key, inner)] =>
      simp only [rooted, enclosing]
      split
      · exact .inr ⟨rfl, rfl⟩
      · exact .inl ⟨key, inner, rfl, rfl, rfl⟩

/-- If one element is left after an edit it is the element that was there, with its places. -/
theorem grown_single {tree inner : Json} {only : String}
    (read : tree = .object [(key, value)] ∨ ∃ text, tree = .object [(key, value), (textName, .text text)])
    (grown : Grown tree (.object [(only, inner)])) :
    only = key ∧ (elementPlaces [] key value).Sublist (elementPlaces [] key inner) := by
  cases grown with
  | same =>
    rcases read with same | ⟨text, same⟩
    · cases same
      exact ⟨rfl, List.Sublist.refl _⟩
    · cases same
  | @written path new _ absent written =>
    cases path with
    | nil => cases absent
    | cons segment rest =>
      rcases read with rfl | ⟨text, rfl⟩
      · rw [Json.setAt_object] at written
        obtain ⟨child, below, same⟩ := Json.within_eq_ok written
        simp only [Keyed.put, Keyed.get?, Json.get?, Json.child?] at same below absent
        split at same
        · rename_i name
          cases same
          rw [if_pos name] at below absent
          exact ⟨rfl, (sublist_setAt absent below [] key).1⟩
        · cases same
      · -- a text beside the element stays there, so two fields are left
        rw [Json.setAt_object] at written
        obtain ⟨child, _, same⟩ := Json.within_eq_ok written
        simp only [Keyed.put] at same
        split at same
        · cases same
        · split at same <;> cases same

/-- The places of the element of a document are in what is written for its value after an edit. -/
theorem sublist_grown {tree : Json} (element : IsElement key) (item : value.itemsOf = [value])
    (read : tree = .object [(key, value)] ∨ ∃ text, tree = .object [(key, value), (textName, .text text)])
    (grown : Grown tree changed) :
    ((elementPlaces [] key value).map (.below (enclosing changed))).Sublist
      (elementPlaces [] (rooted changed).1 (rooted changed).2) := by
  rcases rooted_cases changed with ⟨only, inner, rfl, root, none⟩ | ⟨root, around⟩
  · obtain ⟨rfl, kept⟩ := grown_single read grown
    rwa [root, none, ← elementPlaces_below, List.append_nil]
  · have inside : (elementPlaces ([] ++ [rootName]) key value).Sublist (elementPlaces [] rootName tree) := by
      have path : spelled rootName :: [] = [] ++ [rootName] := by decide
      rcases read with rfl | ⟨text, rfl⟩ <;>
      · rw [elementPlaces_object, path, List.flatMap_cons, fieldPlaces_element element, item, List.flatMap_singleton]
        exact (List.sublist_append_left _ _).trans (List.sublist_append_right _ _)
    rw [root, around, ← elementPlaces_below]
    cases grown with
    | same => exact inside
    | written absent written => exact inside.trans (sublist_setAt absent written [] rootName).1

/-! ## Names that are kept -/

/-- An XML body is a document with one root, and has all places of the markup inside the elements `above`. -/
def KeepsNames (above : List String) (markup : List Markup) (body : Body) : Prop :=
  ∃ kept, Markup.ofBytes? body.bytes = some kept ∧ (places [] kept).countP Place.isRoot = 1 ∧
    ((places [] markup).map (.below above)).Subperm (places [] kept)

/-- All elements and attributes of markup have names that are written as they are. -/
def HasFixedNames (markup : List Markup) : Prop := ∀ each ∈ markup, ∀ name ∈ each.names, IsFixed name

theorem keepsNames_written (body : Body) (declared : Bool) (above : List String) (markup : List Markup) (changed : Json) :
    KeepsNames above markup (body.withText (encode declared changed)) ↔
      (∀ each ∈ documentMarkup changed, each.IsDistinct) ∧
        ((places [] markup).map (.below above)).Subperm (elementPlaces [] (rooted changed).1 (rooted changed).2) := by
  have same : places [] (shown [] (documentMarkup changed)) = elementPlaces [] (rooted changed).1 (rooted changed).2 :=
    places_shown [] [] (documentMarkup changed)
  rw [KeepsNames, Body.withText, ofBytes?_encode]
  constructor
  · rintro ⟨kept, read, _, within⟩
    split at read
    · rename_i distinct
      cases read
      exact ⟨distinct, same ▸ within⟩
    · cases read
  · rintro ⟨distinct, within⟩
    exact ⟨_, if_pos distinct, by rw [same]; exact countP_root _ _, by rwa [same]⟩

/-- Only a document whose names are written as they are keeps them. -/
theorem fixed_of_subperm {above : List String} {markup : List Markup} {key : String} {value : Json}
    (within : ((places [] markup).map (.below above)).Subperm (elementPlaces [] key value)) : HasFixedNames markup := by
  apply (@fixed_places [] markup nofun).mp
  intro place member
  have isFixed := fixed_elementPlaces key value _ (within.subset (List.mem_map_of_mem member))
  exact ⟨fun name inside => isFixed.path name (List.mem_append_left above inside), isFixed.key⟩

/-- After an edit a document has its names if they are written as they are and the result can be read. -/
theorem keepsNames_grown {body : Body} {markup : List Markup} {tree : Json}
    (read : Markup.ofBytes? body.bytes = some markup) (decoded : decode body.bytes = .ok tree)
    (single : (places [] markup).countP Place.isRoot = 1) (grown : Grown tree changed) (declared : Bool) :
    KeepsNames (enclosing changed) markup (body.withText (encode declared changed)) ↔
      HasFixedNames markup ∧ (Markup.ofBytes? (body.withText (encode declared changed)).bytes).isSome := by
  constructor
  · intro keeps
    have within := ((keepsNames_written ..).mp keeps).2
    obtain ⟨kept, reads, _⟩ := keeps
    exact ⟨fixed_of_subperm within, by rw [reads]; rfl⟩
  · rintro ⟨fixed, reads⟩
    obtain ⟨key, value, element, item, perm, shape, _⟩ := decode_cases read decoded fixed single
    rw [keepsNames_written]
    refine ⟨?_, ?_⟩
    · by_contra again
      rw [Body.withText, ofBytes?_encode, if_neg again] at reads
      cases reads
    · have within := sublist_grown element item shape grown
      exact (perm.symm.map _).subperm.trans within.subperm

/-- What is read from a document whose names are written as they are can be read again. -/
theorem isSome_of_fixed {body : Body} {markup : List Markup} {tree : Json}
    (read : Markup.ofBytes? body.bytes = some markup) (decoded : decode body.bytes = .ok tree)
    (single : (places [] markup).countP Place.isRoot = 1) (fixed : HasFixedNames markup) (declared : Bool) :
    (Markup.ofBytes? (body.withText (encode declared tree)).bytes).isSome := by
  obtain ⟨_, _, _, _, _, _, distinct⟩ := decode_cases read decoded fixed single
  rw [Body.withText, ofBytes?_encode, if_pos distinct]
  rfl

end Junction.Xml

namespace Junction.Body
open Xml (KeepsNames HasFixedNames Place places enclosing)

/-- What an XML body with one root keeps of its names. It keeps them when it is written again if and only if they are all
written as they are. The same is true of an edit outside of what is there, if what it gives can be read at all. An
element `root` is around the elements of the body if the value that is written is not that of one element. -/
theorem keepsNames_iff {body : Body} {markup : List Xml.Markup} {tree : Json} (format : body.format = .xml)
    (read : Xml.Markup.ofBytes? body.bytes = some markup) (decoded : body.decode = .ok tree)
    (single : (places [] markup).countP Place.isRoot = 1) :
    (∃ out, body.reshape id = .ok out ∧ (KeepsNames (enclosing tree) markup out ↔ HasFixedNames markup)) ∧
      ∀ action ∈ [Action.add, .append, .set], ∀ key argument changed, tree.get? (Json.Path.ofText key) = none →
        Change.modify tree action key (Change.valueOf argument) = .ok changed →
        ∃ out, body.modify action key argument = .ok out ∧
          (KeepsNames (enclosing changed) markup out ↔
            HasFixedNames markup ∧ (Xml.Markup.ofBytes? out.bytes).isSome) := by
  have document := (decode_xml_iff format).mp decoded
  refine ⟨⟨_, reshape_xml format decoded id, ?_⟩, ?_⟩
  · rw [id, Xml.keepsNames_grown read document single .same]
    exact ⟨fun kept => kept.1, fun fixed => ⟨fixed, Xml.isSome_of_fixed read document single fixed _⟩⟩
  · intro action adds key argument changed absent modified
    refine ⟨_, modify_xml format decoded adds modified, ?_⟩
    exact Xml.keepsNames_grown read document single (Xml.grown_modify adds absent modified) _

/-- A note with an attribute, a text, and two elements of one name. -/
def note : Body := ofBytes .xml (String.ofList "<a b='1'><c/>x<c/></a>".toList).toUTF8

/-- The value of the note. -/
def noteTree : Json := .object [("a", .object [("-b", .text "1"), ("c", .array [.null, .null]), ("#text", .text "x")])]

theorem ofBytes?_note : Xml.Markup.ofBytes? note.bytes =
    some [.opening "a" [("b", "1")], .closed "c" [], .text "x", .closed "c" [], .closing "a"] :=
  (Xml.ofBytes?_toUTF8 rfl).trans rfl

theorem decode_note : note.decode = .ok noteTree := by
  rw [decode_xml_iff rfl, Xml.decode, ofBytes?_note]
  rfl

/-- The note keeps its names, also with one more element. -/
theorem keepsNames_note :
    (∃ out, note.reshape id = .ok out ∧
      KeepsNames [] [.opening "a" [("b", "1")], .closed "c" [], .text "x", .closed "c" [], .closing "a"] out) ∧
    ∃ out, note.modify .set "a.d" "2" = .ok out ∧
      (KeepsNames [] [.opening "a" [("b", "1")], .closed "c" [], .text "x", .closed "c" [], .closing "a"] out ↔
        (Xml.Markup.ofBytes? out.bytes).isSome) := by
  obtain ⟨⟨out, reshaped, keeps⟩, edits⟩ := keepsNames_iff rfl ofBytes?_note decode_note rfl
  have fixed : HasFixedNames [.opening "a" [("b", "1")], .closed "c" [], .text "x", .closed "c" [], .closing "a"] := by
    unfold HasFixedNames
    decide
  obtain ⟨edited, modified, keepsToo⟩ := edits .set (by decide) "a.d" "2" _ rfl rfl
  exact ⟨⟨out, reshaped, keeps.mpr fixed⟩, edited, modified, keepsToo.trans (and_iff_right fixed)⟩

/-- A document of one element whose name has a prefix. -/
def prefixed : Body := ofBytes .xml (String.ofList "<s:a>1</s:a>".toList).toUTF8

/-- An element with a prefix loses its name: `<s:a>1</s:a>` is written again as `<s_a>1</s_a>`, also where an edit finds
nothing to append to. -/
theorem not_keepsNames_prefixed :
    Xml.Markup.ofBytes? prefixed.bytes = some [.opening "s:a" [], .text "1", .closing "s:a"] ∧
      ∃ out, prefixed.reshape id = .ok out ∧ prefixed.modify .append "b.c" "2" = .ok out ∧
        Xml.Markup.ofBytes? out.bytes = some [.opening "s_a" [], .text "1", .closing "s_a"] ∧
        ¬ KeepsNames [] [.opening "s:a" [], .text "1", .closing "s:a"] out := by
  have read : Xml.Markup.ofBytes? prefixed.bytes = some [.opening "s:a" [], .text "1", .closing "s:a"] :=
    (Xml.ofBytes?_toUTF8 rfl).trans rfl
  have decoded : prefixed.decode = .ok (.object [("s:a", .text "1")]) := by
    rw [decode_xml_iff rfl, Xml.decode, read]
    rfl
  have reads : ∀ declared, Xml.Markup.ofBytes? (Xml.encode declared (.object [("s:a", .text "1")])).toUTF8 =
      some [.opening "s_a" [], .text "1", .closing "s_a"] := by
    intro declared
    rw [Xml.ofBytes?_encode]
    decide
  have unchanged : Change.modify (.object [("s:a", .text "1")]) .append "b.c" (Change.valueOf "2") =
      .ok (.object [("s:a", .text "1")]) := rfl
  refine ⟨read, _, reshape_xml rfl decoded id, modify_xml rfl decoded (by decide) unchanged, reads _, ?_⟩
  rintro ⟨kept, again, _, within⟩
  cases (reads _).symm.trans again
  revert within
  decide

end Junction.Body
