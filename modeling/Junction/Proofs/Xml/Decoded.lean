import Junction.Proofs.Xml.Places
import Junction.Proofs.Xml.Stack

/-!
What is read from a document whose names are written as they are. The places of its value are those of the document
(`places_of_valueOn`), and no attribute is twice in one of its elements, so that it can be written and read again
(`decode_cases`).
-/

namespace Junction.Xml

namespace Markup

variable {mark : Option Char} {s : List Char}

/-! ## Attributes that are read -/

theorem replaced_of_absent {mark : Char} (absent : mark ∉ s) : replaced mark false s = s := by
  induction s with
  | nil => rfl
  | cons c s ih =>
    simp only [List.mem_cons, not_or] at absent
    rw [replaced, if_neg (Ne.symm absent.1), ih absent.2]

theorem replacement_mem_replaced {mark : Char} (present : mark ∈ s) : Text.replacement ∈ replaced mark false s := by
  induction s with
  | nil => cases present
  | cons c s ih =>
    rw [replaced]
    split
    · exact List.mem_cons_self
    · rename_i other
      rcases List.mem_cons.mp present with same | later
      · exact absurd same.symm other
      · exact List.mem_cons_of_mem c (ih later)

/-- A name that is written as it is has no broken character in it. -/
theorem lossy_of_fixed (fixed : IsFixed (lossy mark s)) : lossy mark s = String.ofList s := by
  cases mark with
  | none => rfl
  | some mark =>
    have named := (isFixed_iff.mp fixed).named
    rw [lossy, Option.elim_some, String.toList_ofList] at named
    have absent : mark ∉ s := by
      intro present
      have unnamed : isNameChar Text.replacement = false := by decide +kernel
      rw [named _ (replacement_mem_replaced present)] at unnamed
      cases unnamed
    rw [lossy, Option.elim_some, replaced_of_absent absent]

/-- Reading attributes comes to the end, or finds one whose name has not been seen. -/
theorem attributes?_cases {fuel : Nat} {seen : List (List Char)} {found : List (String × String)}
    (read : attributes? mark (fuel + 1) seen s = some found) :
    found = [] ∨ ∃ name value rest more, name ∉ seen ∧ attributes? mark fuel (name :: seen) rest = some more ∧
      found = (lossy mark name, value) :: more := by
  rw [attributes?] at read
  split at read
  · exact .inl (Option.some.inj read).symm
  · simp only at read
    split at read
    · split at read
      · cases read
      · rename_i unseen
        split at read
        · split at read
          · split at read
            · obtain ⟨value, _, valued⟩ := Option.bind_eq_some_iff.mp read
              obtain ⟨more, later, same⟩ := Option.map_eq_some_iff.mp valued
              rw [List.contains_iff_mem] at unseen
              exact .inr ⟨_, value, _, more, unseen, later, same.symm⟩
            · cases read
          · cases read
        · cases read
    · cases read

theorem attributes?_names {fuel : Nat} {seen : List (List Char)} {found : List (String × String)}
    (read : attributes? mark fuel seen s = some found) :
    ∃ names : List (List Char), names.Nodup ∧ (∀ name ∈ names, name ∉ seen) ∧
      found.map (·.1) = names.map (lossy mark) := by
  induction fuel generalizing seen s found with
  | zero => cases read
  | succ fuel ih =>
    rcases attributes?_cases read with rfl | ⟨name, value, rest, more, unseen, later, rfl⟩
    · exact ⟨[], List.nodup_nil, nofun, rfl⟩
    · obtain ⟨names, distinct, fresh, same⟩ := ih later
      have once : name ∉ names := fun again => fresh name again List.mem_cons_self
      refine ⟨name :: names, List.nodup_cons.mpr ⟨once, distinct⟩, List.forall_mem_cons.mpr ⟨unseen, ?_⟩, ?_⟩
      · intro other member known
        exact fresh other member (List.mem_cons_of_mem name known)
      · rw [List.map_cons, List.map_cons, same]

/-- The attributes of a tag are there once each if their names are written as they are. -/
theorem nodup_of_tag? {name : String} {attributes : List (String × String)} (read : tag? mark s = some (name, attributes))
    (fixed : ∀ pair ∈ attributes, IsFixed pair.1) : (attributes.map (·.1)).Nodup := by
  obtain ⟨found, read, same⟩ := Option.map_eq_some_iff.mp read
  cases same
  obtain ⟨names, distinct, _, same⟩ := attributes?_names read
  have whole : names.map (lossy mark) = names.map String.ofList := by
    apply List.map_congr_left
    intro name member
    have listed : lossy mark name ∈ attributes.map (·.1) := by
      rw [same]
      exact List.mem_map_of_mem member
    obtain ⟨pair, listed, shown⟩ := List.mem_map.mp listed
    apply lossy_of_fixed
    rw [← shown]
    exact fixed pair listed
  rw [same, whole]
  exact distinct.map fun _ _ => String.ofList_injective

/-- Of what a bracket begins, only a tag that opens an element has attributes. -/
theorem bracketed?_attributes {names left : List (List Char)} {found : List Markup} {rest : List Char}
    (read : bracketed? mark names s = some (found, left, rest)) :
    ∀ each ∈ found, each.attributes = [] ∨ ∃ inner name, tag? mark inner = some (name, each.attributes) := by
  unfold bracketed? at read
  split at read
  · split at read
    · obtain ⟨_, _, same⟩ := Option.map_eq_some_iff.mp read
      cases same
      nofun
    · cases read
  · obtain ⟨_, _, read⟩ := Option.bind_eq_some_iff.mp read
    obtain ⟨_, _, same⟩ := Option.map_eq_some_iff.mp read
    cases same
    exact List.forall_mem_singleton.mpr (.inl rfl)
  · split at read
    · obtain ⟨_, _, read⟩ := Option.bind_eq_some_iff.mp read
      simp only at read
      split at read
      · cases read
      · cases read
        nofun
    · cases read
  · cases read
  · obtain ⟨_, _, same⟩ := Option.map_eq_some_iff.mp read
    cases same
    nofun
  · obtain ⟨_, _, read⟩ := Option.bind_eq_some_iff.mp read
    simp only at read
    split at read
    · cases read
    · split at read <;> split at read
      · cases read
        exact List.forall_mem_singleton.mpr (.inl rfl)
      · cases read
      · cases read
        exact List.forall_mem_singleton.mpr (.inl rfl)
      · cases read
  · cases read
  · obtain ⟨_, _, read⟩ := Option.bind_eq_some_iff.mp read
    simp only at read
    split at read
    · obtain ⟨_, tag, same⟩ := Option.map_eq_some_iff.mp read
      cases same
      exact List.forall_mem_singleton.mpr (.inr ⟨_, _, tag⟩)
    · obtain ⟨_, tag, same⟩ := Option.map_eq_some_iff.mp read
      cases same
      exact List.forall_mem_singleton.mpr (.inr ⟨_, _, tag⟩)

theorem read?_attributes {fuel : Nat} {names : List (List Char)} {found : List Markup}
    (read : read? mark fuel names s = some found) :
    ∀ each ∈ found, each.attributes = [] ∨ ∃ inner name, tag? mark inner = some (name, each.attributes) := by
  have text : ∀ {s : List Char} {found}, texts? mark s = some found → ∀ each ∈ found, each.attributes = [] := by
    intro s found read
    simp only [texts?] at read
    split at read
    · cases read
      exact List.forall_mem_nil _
    · obtain ⟨_, _, same⟩ := Option.map_eq_some_iff.mp read
      cases same
      exact List.forall_mem_singleton.mpr rfl
  induction fuel generalizing s names found with
  | zero => cases read
  | succ fuel ih =>
    simp only [read?] at read
    obtain ⟨before, begun, read⟩ := Option.bind_eq_some_iff.mp read
    split at read
    · cases read
      exact fun each member => .inl (text begun each member)
    · obtain ⟨⟨tag, left, rest⟩, bracket, read⟩ := Option.bind_eq_some_iff.mp read
      obtain ⟨more, later, same⟩ := Option.map_eq_some_iff.mp read
      cases same
      intro each member
      simp only [List.mem_append] at member
      rcases member with (begins | tagged) | after
      · exact .inl (text begun each begins)
      · exact bracketed?_attributes bracket each tagged
      · exact ih later each after

/-- The attributes of each tag of a document have distinct names if they are written as they are. -/
theorem distinct_of_read {bytes : ByteArray} {markup : List Markup} (read : ofBytes? bytes = some markup)
    (fixed : ∀ each ∈ markup, ∀ name ∈ each.names, IsFixed name) : ∀ each ∈ markup, each.IsDistinct := by
  have tags : ∃ mark : Option Char, ∀ each ∈ markup,
      each.attributes = [] ∨ ∃ inner name, tag? mark inner = some (name, each.attributes) := by
    unfold ofBytes? at read
    split at read
    · exact ⟨_, read?_attributes read⟩
    · exact ⟨_, read?_attributes read⟩
  obtain ⟨mark, tags⟩ := tags
  intro each member
  rcases tags each member with none | ⟨inner, name, tag⟩
  · rw [IsDistinct, none]
    exact List.nodup_nil
  · apply nodup_of_tag? tag
    intro pair listed
    apply fixed each member
    cases each with
    | opening | closed => exact List.mem_cons_of_mem _ (List.mem_map_of_mem listed)
    | closing | text => cases listed

end Markup

/-! ## Fields that are read -/

variable {top : OpenElement} {outer : List OpenElement} {name : String} {fields : List (String × Json)}

theorem attributesOf_cons (field : String × Json) (fields : List (String × Json)) :
    attributesOf (field :: fields) = attributesOf [field] ++ attributesOf fields :=
  attributesOf_append [field] fields

theorem attributesOf_singleton (other : isAttribute name = false) (value : Json) : attributesOf [(name, value)] = [] :=
  attributesOf_eq_nil fun field member => by rwa [List.mem_singleton.mp member]

/-- A child that is hung into an element changes none of its attributes. -/
theorem attributesOf_insertChild (element : IsElement name) (fields : List (String × Json)) (value : Json) :
    attributesOf (insertChild fields name value) = attributesOf fields := by
  have none := attributesOf_singleton element.1
  rcases insertChild_cases fields name value with ⟨_, same⟩ | ⟨front, old, back, _, rfl, same⟩
  · rw [same, attributesOf_append, none, List.append_nil]
  · rw [same, attributesOf_append, attributesOf_cons, none, attributesOf_append, attributesOf_cons (name, old), none]

theorem attributesOf_put_text (fields : List (String × Json)) (value : Json) :
    attributesOf (Keyed.put textName value fields) = attributesOf fields := by
  have none := attributesOf_singleton isAttribute_textName
  rcases Keyed.put_cases textName value fields with ⟨_, same⟩ | ⟨front, old, back, _, rfl, same⟩
  · rw [same, attributesOf_append, none, List.append_nil]
  · rw [same, attributesOf_append, attributesOf_cons, none, attributesOf_append, attributesOf_cons (textName, old), none]

/-- A child adds its own places to those of the fields. -/
theorem perm_insertChild (element : IsElement name) {value : Json} (single : value.itemsOf = [value])
    (path : List String) (fields : List (String × Json)) :
    ((insertChild fields name value).flatMap (fieldPlaces path)).Perm
      (fields.flatMap (fieldPlaces path) ++ elementPlaces path name value) := by
  rcases insertChild_cases fields name value with ⟨_, same⟩ | ⟨front, old, back, _, rfl, same⟩
  · rw [same, List.flatMap_append, List.flatMap_singleton, fieldPlaces_element element, single, List.flatMap_singleton]
  · rw [same, List.flatMap_append, List.flatMap_append, List.flatMap_cons, List.flatMap_cons,
      fieldPlaces_element element, fieldPlaces_element element, Json.itemsOf, List.flatMap_append, List.flatMap_singleton]
    simp only [List.append_assoc]
    exact (List.perm_append_comm.append_left _).append_left _

theorem flatMap_put_text (path : List String) (fields : List (String × Json)) (value : Json) :
    (Keyed.put textName value fields).flatMap (fieldPlaces path) = fields.flatMap (fieldPlaces path) := by
  have none : ∀ value, fieldPlaces path (textName, value) = [] := fieldPlaces_other (fun element => element.2 rfl) path
  rcases Keyed.put_cases textName value fields with ⟨_, same⟩ | ⟨front, old, back, _, rfl, same⟩
  · rw [same, List.flatMap_append, List.flatMap_singleton, none, List.append_nil]
  · rw [same, List.flatMap_append, List.flatMap_append, List.flatMap_cons, List.flatMap_cons, none, none]

/-! ## Elements that are read -/

/-- The value of an element is null, a text, or its fields with or without a text beside them. -/
theorem value_cases (element : OpenElement) :
    (element.fields = [] ∧ (element.value = .null ∨ ∃ text, element.value = .text text)) ∨
      element.value = .object element.fields ∨
      ∃ text, element.value = .object (Keyed.put textName (.text text) element.fields) := by
  simp only [OpenElement.value]
  split
  · rename_i none
    refine .inl ⟨List.isEmpty_iff.mp none, ?_⟩
    split
    · exact .inl rfl
    · exact .inr ⟨_, rfl⟩
  · split
    · exact .inr (.inl rfl)
    · exact .inr (.inr ⟨_, rfl⟩)

theorem value_ne_array (element : OpenElement) (items : List Json) : element.value ≠ .array items := by
  rcases value_cases element with ⟨_, same | ⟨text, same⟩⟩ | same | ⟨text, same⟩ <;> rw [same] <;> exact Json.noConfusion

theorem itemsOf_value (element : OpenElement) : element.value.itemsOf = [element.value] := by
  rcases value_cases element with ⟨_, same | ⟨text, same⟩⟩ | same | ⟨text, same⟩ <;> rw [same] <;> rfl

/-- The places of an element are those of its tag and those of its fields. -/
theorem elementPlaces_value (element : OpenElement) (fixed : IsFixed element.name) (around : List String) :
    elementPlaces around element.name element.value =
      tagPlaces (element.name :: around) (attributesOf element.fields) ++
        element.fields.flatMap (fieldPlaces (element.name :: around)) := by
  have path : spelled element.name :: around = element.name :: around := congrArg (· :: around) fixed
  rcases value_cases element with ⟨none, same | ⟨text, same⟩⟩ | same | ⟨text, same⟩
  · rw [same, none, ← path]
    rfl
  · rw [same, none, ← path]
    rfl
  · rw [same, elementPlaces_object, path]
  · rw [same, elementPlaces_object, path, attributesOf_put_text, flatMap_put_text]

/-- Fields that can be written as they are: no attribute is there twice, and an array has at least two items. -/
structure Sound (fields : List (String × Json)) : Prop where
  distinct : ((attributesOf fields).map (·.1)).Nodup
  inside : ∀ each ∈ fieldsMarkup fields, each.IsDistinct
  repeated : ∀ field ∈ fields, ∀ items, field.2 = .array items → 2 ≤ items.length

theorem isDistinct_value {element : OpenElement} (sound : Sound element.fields) (key : String) :
    ∀ each ∈ elementMarkup key element.value, each.IsDistinct := by
  have bare : (([] : List (String × String)).map (·.1)).Nodup := List.nodup_nil
  rcases value_cases element with ⟨_, same | ⟨text, same⟩⟩ | same | ⟨text, same⟩
  · rw [same, elementMarkup, List.forall_mem_singleton]
    exact bare
  · rw [same]
    simp only [elementMarkup, List.forall_mem_cons]
    exact ⟨bare, bare, bare, List.forall_mem_nil _⟩
  · rw [same]
    exact isDistinct_object key sound.distinct sound.inside
  · rw [same]
    refine isDistinct_object key (by rw [attributesOf_put_text]; exact sound.distinct) ?_
    have inside := sound.inside
    simp only [fieldsMarkup_eq] at inside ⊢
    rcases Keyed.put_cases textName (.text text) element.fields with ⟨_, put⟩ | ⟨front, old, back, _, split, put⟩
    · rw [put, List.flatMap_append, List.flatMap_singleton, fieldMarkup_text, List.forall_mem_append,
        List.forall_mem_singleton]
      exact ⟨inside, bare⟩
    · rw [split, List.flatMap_append, List.flatMap_cons, fieldMarkup_text] at inside
      rw [put, List.flatMap_append, List.flatMap_cons, fieldMarkup_text]
      simp only [List.forall_mem_append, List.forall_mem_singleton] at inside ⊢
      exact ⟨inside.1, bare, inside.2.2⟩

theorem sound_attributeFields {attributes : List (String × String)} (fixed : ∀ pair ∈ attributes, IsFixed pair.1)
    (distinct : (attributes.map (·.1)).Nodup) : Sound (attributeFields attributes) := by
  refine ⟨by rwa [attributesOf_attributeFields fixed], ?_, ?_⟩
  · rw [fieldsMarkup_attributeFields]
    nofun
  · intro field member items same
    obtain ⟨pair, _, rfl⟩ := List.mem_map.mp member
    cases same

theorem sound_insertChild (element : IsElement name) (sound : Sound fields) {child : OpenElement}
    (inside : Sound child.fields) : Sound (insertChild fields name child.value) := by
  have distinct := isDistinct_value inside name
  obtain ⟨once, within, repeated⟩ := sound
  refine ⟨by rwa [attributesOf_insertChild element], ?_, ?_⟩
  · rw [fieldsMarkup_eq] at within ⊢
    rcases insertChild_cases fields name child.value with ⟨_, same⟩ | ⟨front, old, back, _, rfl, same⟩
    · rw [same, List.flatMap_append, List.flatMap_singleton, fieldMarkup_element element, itemsOf_value,
        List.flatMap_singleton, List.forall_mem_append]
      exact ⟨within, distinct⟩
    · rw [List.flatMap_append, List.flatMap_cons, fieldMarkup_element element] at within
      rw [same, List.flatMap_append, List.flatMap_cons, fieldMarkup_element element, Json.itemsOf, List.flatMap_append,
        List.flatMap_singleton]
      simp only [List.forall_mem_append] at within ⊢
      exact ⟨within.1, ⟨within.2.1, distinct⟩, within.2.2⟩
  · rcases insertChild_cases fields name child.value with ⟨_, same⟩ | ⟨front, old, back, _, rfl, same⟩
    · rw [same, List.forall_mem_append, List.forall_mem_singleton]
      refine ⟨repeated, ?_⟩
      intro items isArray
      exact absurd isArray (value_ne_array child items)
    · rw [List.forall_mem_append, List.forall_mem_cons] at repeated
      rw [same, List.forall_mem_append, List.forall_mem_cons]
      refine ⟨repeated.1, ?_, repeated.2.2⟩
      rintro items isArray
      cases isArray
      rw [List.length_append, List.length_singleton]
      cases old with
      | array items => have more := repeated.2.1 items rfl; rw [Json.itemsOf]; omega
      | null | bool | number | text | object => exact Nat.le_refl 2

/-! ## Documents that are read -/

/-- A stack of elements with sound fields: names that are written as they are, and no attribute in the document. -/
def SoundStack : OpenElement → List OpenElement → Prop
  | document, [] => Sound document.fields ∧ ∀ field ∈ document.fields, IsElement field.1
  | top, parent :: outer => IsFixed top.name ∧ Sound top.fields ∧ SoundStack parent outer

/-- The names of the open elements, the innermost first. -/
def openNames : OpenElement → List OpenElement → List String
  | _, [] => []
  | top, parent :: outer => top.name :: openNames parent outer

/-- The places of what a stack of elements holds. -/
def heldPlaces : OpenElement → List OpenElement → List Place
  | document, [] => document.fields.flatMap (fieldPlaces [])
  | top, parent :: outer =>
    tagPlaces (openNames top (parent :: outer)) (attributesOf top.fields) ++
      top.fields.flatMap (fieldPlaces (openNames top (parent :: outer))) ++ heldPlaces parent outer

theorem openNames_withChild (top : OpenElement) (outer : List OpenElement) (name : String) (value : Json) :
    openNames (top.withChild name value) outer = openNames top outer := by
  cases outer <;> rfl

theorem soundStack_withChild (sound : SoundStack top outer) (fixed : IsFixed name) {child : OpenElement}
    (inside : Sound child.fields) : SoundStack (top.withChild name child.value) outer := by
  have element := isElement_of_fixed fixed
  cases outer with
  | nil =>
    refine ⟨sound_insertChild element sound.1 inside, ?_⟩
    simp only [OpenElement.withChild]
    rcases insertChild_cases top.fields name child.value with ⟨_, same⟩ | ⟨front, old, back, _, split, same⟩
    · rw [same, List.forall_mem_append, List.forall_mem_singleton]
      exact ⟨sound.2, element⟩
    · have elements := sound.2
      rw [split, List.forall_mem_append, List.forall_mem_cons] at elements
      rw [same, List.forall_mem_append, List.forall_mem_cons]
      exact ⟨elements.1, element, elements.2.2⟩
  | cons parent outer => exact ⟨sound.1, sound_insertChild element sound.2.1 inside, sound.2.2⟩

/-- A child adds its own places to those of the stack. -/
theorem perm_withChild (element : IsElement name) (top : OpenElement) (outer : List OpenElement) (child : OpenElement) :
    (heldPlaces (top.withChild name child.value) outer).Perm
      (heldPlaces top outer ++ elementPlaces (openNames top outer) name child.value) := by
  have perm := fun path => perm_insertChild element (itemsOf_value child) path top.fields
  cases outer with
  | nil => exact perm []
  | cons parent outer =>
    simp only [heldPlaces, OpenElement.withChild, attributesOf_insertChild element]
    refine (((perm _).append_left _).append_right _).trans ?_
    simp only [List.append_assoc]
    exact ((List.perm_append_comm.append_left _).append_left _)

/-- An element that has begun has the places of its tag. -/
theorem places_start {attributes : List (String × String)} (fixed : ∀ pair ∈ attributes, IsFixed pair.1)
    (once : (attributes.map (·.1)).Nodup) (name : String) (path : List String) :
    tagPlaces path (attributesOf (OpenElement.start name attributes).fields) ++
      (OpenElement.start name attributes).fields.flatMap (fieldPlaces path) = tagPlaces path attributes := by
  have none : (attributeFields attributes).flatMap (fieldPlaces path) = [] := by
    rw [List.flatMap_eq_nil_iff]
    intro field member
    obtain ⟨pair, _, rfl⟩ := List.mem_map.mp member
    apply fieldPlaces_other
    intro element
    exact absurd (element.1.symm.trans (isAttribute_dash pair.1)) Bool.false_ne_true
  rw [start_eq once, attributesOf_attributeFields fixed, none, List.append_nil]

/-- Reading markup on a stack gives the value of a document that has the places of the stack and of the markup. -/
theorem places_of_valueOn {markup : List Markup} {value : Json} (sound : SoundStack top outer)
    (fixed : ∀ each ∈ markup, ∀ name ∈ each.names, IsFixed name) (distinct : ∀ each ∈ markup, each.IsDistinct)
    (read : valueOn top outer markup = .ok value) :
    ∃ document : OpenElement, value = document.value ∧ SoundStack document [] ∧
      (heldPlaces document []).Perm (heldPlaces top outer ++ places (openNames top outer) markup) := by
  induction markup generalizing top outer with
  | nil =>
    cases outer with
    | nil =>
      cases read
      exact ⟨top, rfl, sound, by rw [places, List.append_nil]⟩
    | cons => cases read
  | cons first markup ih =>
    rw [List.forall_mem_cons] at fixed distinct
    obtain ⟨names, fixed⟩ := fixed
    obtain ⟨once, distinct⟩ := distinct
    cases first with
    | opening name attributes =>
      rw [Markup.names, List.forall_mem_cons, List.forall_mem_map] at names
      have begun : Sound (OpenElement.start name attributes).fields := by
        rw [@start_eq attributes once]
        exact sound_attributeFields names.2 once
      obtain ⟨document, same, isSound, perm⟩ := @ih (.start name attributes) (top :: outer) ⟨names.1, begun, sound⟩ fixed
        distinct read
      refine ⟨document, same, isSound, perm.trans ?_⟩
      rw [heldPlaces, places_start names.2 once, places, List.append_assoc]
      refine List.perm_append_comm_assoc _ _ _ |>.trans ?_
      exact List.Perm.refl _
    | closed name attributes =>
      rw [Markup.names, List.forall_mem_cons, List.forall_mem_map] at names
      have begun : Sound (OpenElement.start name attributes).fields := by
        rw [@start_eq attributes once]
        exact sound_attributeFields names.2 once
      obtain ⟨document, same, isSound, perm⟩ := ih (soundStack_withChild sound names.1 begun) fixed distinct read
      refine ⟨document, same, isSound, perm.trans ?_⟩
      have tag := elementPlaces_value (.start name attributes) names.1 (openNames top outer)
      rw [places_start names.2 once] at tag
      rw [openNames_withChild, places, ← List.append_assoc]
      refine List.Perm.append_right _ ((perm_withChild (isElement_of_fixed names.1) top outer _).trans ?_)
      exact List.Perm.of_eq (congrArg (heldPlaces top outer ++ ·) tag)
    | text value =>
      obtain ⟨document, same, isSound, perm⟩ := @ih { top with text := top.text ++ value.toList } outer
        (by cases outer <;> exact sound) fixed distinct read
      refine ⟨document, same, isSound, perm.trans (List.Perm.of_eq ?_)⟩
      cases outer <;> rfl
    | closing name =>
      cases outer with
      | nil => cases read
      | cons parent outer =>
        -- the element becomes a child of the one around it, and its places go there with it
        obtain ⟨topFixed, topSound, sound⟩ := sound
        obtain ⟨document, same, isSound, perm⟩ := ih (soundStack_withChild sound topFixed topSound) fixed distinct read
        refine ⟨document, same, isSound, perm.trans ?_⟩
        rw [openNames_withChild, places, openNames, List.tail_cons, heldPlaces]
        refine List.Perm.append_right _ ((perm_withChild (isElement_of_fixed topFixed) parent outer top).trans ?_)
        rw [elementPlaces_value top topFixed]
        exact List.perm_append_comm

/-! ## One root -/

/-- A field of elements has as many roots as it has items, and it has one. -/
theorem countP_root_field {key : String} (element : IsElement key) (value : Json) :
    (fieldPlaces [] (key, value)).countP Place.isRoot = value.itemsOf.length := by
  rw [fieldPlaces_element element]
  induction value.itemsOf with
  | nil => rfl
  | cons item items ih => rw [List.flatMap_cons, List.countP_append, countP_root, ih, List.length_cons, Nat.add_comm]

theorem itemsOf_pos {value : Json} (repeated : ∀ items, value = .array items → 2 ≤ items.length) :
    0 < value.itemsOf.length := by
  cases value with
  | array items => have more := repeated items rfl; rw [Json.itemsOf]; omega
  | null | bool | number | text | object => exact Nat.one_pos

/-- Fields with one root are the field of one element. -/
theorem single_of_countP_root (sound : Sound fields) (elements : ∀ field ∈ fields, IsElement field.1)
    (single : (fields.flatMap (fieldPlaces [])).countP Place.isRoot = 1) :
    ∃ key value, fields = [(key, value)] ∧ IsElement key ∧ value.itemsOf = [value] := by
  have repeated := sound.repeated
  match fields with
  | [] => cases single
  | (key, value) :: rest =>
    rw [List.forall_mem_cons] at elements repeated
    -- every field has a root, so one root leaves no room for a second field or a second item
    rw [List.flatMap_cons, List.countP_append, countP_root_field elements.1] at single
    have filled : 0 < value.itemsOf.length := itemsOf_pos repeated.1
    match rest with
    | [] =>
      refine ⟨key, value, rfl, elements.1, ?_⟩
      cases value with
      | array items =>
        have more := repeated.1 items rfl
        rw [Json.itemsOf] at single
        omega
      | null | bool | number | text | object => rfl
    | (other, second) :: rest =>
      rw [List.forall_mem_cons] at elements repeated
      rw [List.flatMap_cons, List.countP_append, countP_root_field elements.2.1] at single
      have filled' : 0 < second.itemsOf.length := itemsOf_pos repeated.2.1
      omega

/-- A document with one root, and names that are written as they are, is read as the value of its root, with or without a
text beside it. -/
theorem decode_cases {bytes : ByteArray} {markup : List Markup} {tree : Json}
    (read : Markup.ofBytes? bytes = some markup) (decoded : decode bytes = .ok tree)
    (fixed : ∀ each ∈ markup, ∀ name ∈ each.names, IsFixed name)
    (single : (places [] markup).countP Place.isRoot = 1) :
    ∃ key value, IsElement key ∧ value.itemsOf = [value] ∧ (elementPlaces [] key value).Perm (places [] markup) ∧
      (tree = .object [(key, value)] ∨ ∃ text, tree = .object [(key, value), (textName, .text text)]) ∧
      ∀ each ∈ documentMarkup tree, each.IsDistinct := by
  rw [decode, read] at decoded
  have started : SoundStack (.start "" []) [] := by
    refine ⟨⟨List.nodup_nil, ?_, ?_⟩, ?_⟩ <;> exact List.forall_mem_nil _
  obtain ⟨document, rfl, ⟨sound, elements⟩, perm⟩ := places_of_valueOn started fixed
    (Markup.distinct_of_read read fixed) ((valueOf_eq _ _).symm.trans decoded)
  have roots := perm.countP_eq Place.isRoot
  rw [show heldPlaces (.start "" []) [] ++ places (openNames (.start "" []) []) markup = places [] markup from rfl,
    single] at roots
  obtain ⟨key, value, only, element, item⟩ := single_of_countP_root sound elements roots
  have distinct := isDistinct_value sound
  refine ⟨key, value, element, item, ?_, ?_⟩
  · rw [heldPlaces, only, List.flatMap_singleton, fieldPlaces_element element, item, List.flatMap_singleton] at perm
    exact perm
  · have inside := sound.inside
    rw [only, fieldsMarkup_eq, List.flatMap_singleton, fieldMarkup_element element, item, List.flatMap_singleton] at inside
    have plain : (isAttribute key || key == textName) = false := by simp [element.1, element.2]
    rcases value_cases document with ⟨none, _⟩ | same | ⟨text, same⟩
    · rw [none] at only
      cases only
    · rw [same, only]
      refine ⟨.inl rfl, ?_⟩
      rw [documentMarkup, rooted, plain]
      exact inside
    · have absent : textName ∉ document.fields.map (·.1) := by
        rw [only, List.map_singleton, List.mem_singleton]
        exact Ne.symm element.2
      rw [Keyed.put_of_absent absent, only, List.singleton_append] at same
      have root : rooted document.value = (rootName, document.value) := by
        rw [same]
        rfl
      refine ⟨.inr ⟨text, same⟩, ?_⟩
      rw [documentMarkup, root]
      exact distinct rootName

end Junction.Xml
