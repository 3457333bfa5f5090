import Junction.Proofs.Xml.Tree

/-!
The places of a document: each element and each attribute under the names of the elements around it. How a document is
shown changes none of them (`places_shown`), and of what is written for a value they are those of its parts.
-/

namespace Junction.Xml
open Markup (Fits shown shownText)

/-- A place in a document: the names of an element and of those around it, the innermost first, and for an attribute its
name. -/
structure Place where
  path : List String
  attribute? : Option String
deriving DecidableEq, Repr

/-- The place inside other elements. -/
def Place.below (above : List String) (place : Place) : Place := { place with path := place.path ++ above }

/-- The places of a tag: the element and its attributes. -/
def tagPlaces (path : List String) (attributes : List (String × String)) : List Place :=
  ⟨path, none⟩ :: attributes.map fun pair => ⟨path, some pair.1⟩

/-- The places of markup inside open elements, the innermost first. -/
def places : (around : List String) → List Markup → List Place
  | _, [] => []
  | around, .opening name attributes :: rest =>
    tagPlaces (name :: around) attributes ++ places (name :: around) rest
  | around, .closed name attributes :: rest => tagPlaces (name :: around) attributes ++ places around rest
  | around, .closing _ :: rest => places around.tail rest
  | around, .text _ :: rest => places around rest

/-- The places of the element of a value. -/
def elementPlaces (around : List String) (key : String) (value : Json) : List Place :=
  places around (elementMarkup key value)

/-- The places of one field of an object. -/
def fieldPlaces (around : List String) (field : String × Json) : List Place :=
  places around (fieldMarkup field.1 field.2)

variable {around : List String} {key : String} {value : Json}

theorem places_shownText (around : List String) (s : List Char) (rest : List Markup) :
    places around (shownText s ++ rest) = places around rest := by
  simp only [shownText]
  split <;> rfl

theorem places_shown (around : List String) (begun : List Char) (markup : List Markup) :
    places around (shown begun markup) = places around markup := by
  induction markup generalizing around begun with
  | nil =>
    have none := places_shownText around begun []
    rwa [List.append_nil] at none
  | cons first markup ih =>
    cases first with
    | text value => exact ih around (begun ++ value.toList)
    | opening | closed | closing => simp only [shown, places_shownText, places, ih]

/-! ## Elements and what is in them -/

/-- Markup after which the open elements are those before it. -/
def Closes (markup : List Markup) : Prop :=
  ∀ around rest, places around (markup ++ rest) = places around markup ++ places around rest

theorem Closes.flatMap {α : Type} {markup : α → List Markup} {parts : List α} (each : ∀ part ∈ parts, Closes (markup part)) :
    Closes (parts.flatMap markup) ∧
      ∀ around, places around (parts.flatMap markup) = parts.flatMap fun part => places around (markup part) := by
  induction parts with
  | nil => exact ⟨fun _ _ => rfl, fun _ => rfl⟩
  | cons part parts ih =>
    have first := each part List.mem_cons_self
    obtain ⟨closes, inside⟩ := ih fun other member => each other (List.mem_cons_of_mem part member)
    refine ⟨?_, ?_⟩
    · intro around rest
      rw [List.flatMap_cons, List.append_assoc, first, closes, first, List.append_assoc]
    · intro around
      rw [List.flatMap_cons, List.flatMap_cons, first, inside]

theorem closes_fieldMarkup (each : ∀ item ∈ value.itemsOf, Closes (elementMarkup key item)) :
    Closes (fieldMarkup key value) := by
  rw [fieldMarkup]
  split
  · exact fun _ _ => rfl
  · split
    · exact fun _ _ => rfl
    · exact (Closes.flatMap each).1

theorem closes_element (key : String) (value : Json) : Closes (elementMarkup key value) := by
  induction value using Json.inner generalizing key with
  | null | bool | number | text => exact fun _ _ => rfl
  | array items ih =>
    intro around rest
    obtain ⟨closes, _⟩ := @Closes.flatMap _ (elementMarkup itemName) items fun item member => ih item member itemName
    simp only [elementMarkup, itemsMarkup_eq, List.cons_append, List.append_assoc, places, closes _ _, List.nil_append,
      List.tail_cons, List.append_nil]
  | object fields ih =>
    intro around rest
    obtain ⟨closes, _⟩ := @Closes.flatMap _ (fun field => fieldMarkup field.1 field.2) fields fun field member =>
      closes_fieldMarkup fun item inside => ih field member item inside field.1
    simp only [elementMarkup, fieldsMarkup_eq, List.cons_append, List.append_assoc, places, closes _ _, List.nil_append,
      List.tail_cons, List.append_nil]

theorem closes_field (field : String × Json) : Closes (fieldMarkup field.1 field.2) :=
  closes_fieldMarkup fun item _ => closes_element field.1 item

/-- The places of the element of an object are those of its tag and those of its fields. -/
theorem elementPlaces_object (around : List String) (key : String) (fields : List (String × Json)) :
    elementPlaces around key (.object fields) =
      tagPlaces (spelled key :: around) (attributesOf fields) ++ fields.flatMap (fieldPlaces (spelled key :: around)) := by
  obtain ⟨closes, inside⟩ := Closes.flatMap fun field (_ : field ∈ fields) => closes_field field
  rw [elementPlaces, elementMarkup, places, fieldsMarkup_eq, closes, inside]
  simp only [places, List.append_nil]
  rfl

theorem elementPlaces_array (around : List String) (key : String) (items : List Json) :
    elementPlaces around key (.array items) =
      tagPlaces (spelled key :: around) [] ++ items.flatMap (elementPlaces (spelled key :: around) itemName) := by
  obtain ⟨closes, inside⟩ := Closes.flatMap fun item (_ : item ∈ items) => closes_element itemName item
  rw [elementPlaces, elementMarkup, places, itemsMarkup_eq, closes, inside]
  simp only [places, List.append_nil]
  rfl

theorem fieldPlaces_element (element : IsElement key) (around : List String) (value : Json) :
    fieldPlaces around (key, value) = value.itemsOf.flatMap (elementPlaces around key) := by
  rw [fieldPlaces, fieldMarkup_element element]
  exact (Closes.flatMap fun item _ => closes_element key item).2 around

theorem fieldPlaces_other (other : ¬ IsElement key) (around : List String) (value : Json) :
    fieldPlaces around (key, value) = [] := by
  rw [fieldPlaces, fieldMarkup]
  split
  · rfl
  · rename_i notAttribute
    split
    · rfl
    · rename_i notText
      exact absurd ⟨Bool.eq_false_iff.mpr notAttribute, notText⟩ other

/-! ## Inside other elements -/

theorem tagPlaces_below (path above : List String) (attributes : List (String × String)) :
    tagPlaces (path ++ above) attributes = (tagPlaces path attributes).map (.below above) := by
  rw [tagPlaces, tagPlaces, List.map_cons, List.map_map]
  rfl

theorem flatMap_below {α : Type} {inside inner : α → List Place} {parts : List α} {above : List String}
    (each : ∀ part ∈ parts, inside part = (inner part).map (.below above)) :
    parts.flatMap inside = (parts.flatMap inner).map (.below above) := by
  rw [List.map_flatMap]
  exact List.flatMap_congr each

theorem elementPlaces_below (key : String) (value : Json) (around above : List String) :
    elementPlaces (around ++ above) key value = (elementPlaces around key value).map (.below above) := by
  induction value using Json.inner generalizing key around with
  | null | bool | number | text => rfl
  | array items ih =>
    rw [elementPlaces_array, elementPlaces_array, List.map_append, ← tagPlaces_below, ← List.cons_append]
    congr 1
    exact flatMap_below fun item member => ih item member itemName _
  | object fields ih =>
    rw [elementPlaces_object, elementPlaces_object, List.map_append, ← tagPlaces_below, ← List.cons_append]
    congr 1
    apply flatMap_below
    rintro ⟨name, inner⟩ member
    by_cases element : IsElement name
    · rw [fieldPlaces_element element, fieldPlaces_element element]
      exact flatMap_below fun item inside => ih _ member item inside name _
    · rw [fieldPlaces_other element, fieldPlaces_other element]
      rfl

/-! ## Roots -/

/-- The place of an element that no other one is around. -/
def Place.isRoot (place : Place) : Bool := place.attribute? == none && place.path.length == 1

theorem path_of_mem_tagPlaces {path : List String} {attributes : List (String × String)} {place : Place}
    (member : place ∈ tagPlaces path attributes) : place.path = path := by
  rcases List.mem_cons.mp member with rfl | later
  · rfl
  · obtain ⟨pair, _, rfl⟩ := List.mem_map.mp later
    rfl

theorem around_lt_path {place : Place} (member : place ∈ elementPlaces around key value) :
    around.length < place.path.length := by
  induction value using Json.inner generalizing key around with
  | null | bool | number | text =>
    rw [List.mem_singleton.mp (show place ∈ [_] from member)]
    exact Nat.lt_succ_self _
  | array items ih =>
    rw [elementPlaces_array] at member
    rcases List.mem_append.mp member with tag | inside
    · rw [path_of_mem_tagPlaces tag]
      exact Nat.lt_succ_self _
    · obtain ⟨item, listed, inside⟩ := List.mem_flatMap.mp inside
      have deeper := ih item listed inside
      rw [List.length_cons] at deeper
      omega
  | object fields ih =>
    rw [elementPlaces_object] at member
    rcases List.mem_append.mp member with tag | inside
    · rw [path_of_mem_tagPlaces tag]
      exact Nat.lt_succ_self _
    · obtain ⟨⟨name, inner⟩, listed, inside⟩ := List.mem_flatMap.mp inside
      by_cases element : IsElement name
      · rw [fieldPlaces_element element] at inside
        obtain ⟨item, among, inside⟩ := List.mem_flatMap.mp inside
        have deeper := ih _ listed item among inside
        rw [List.length_cons] at deeper
        omega
      · rw [fieldPlaces_other element] at inside
        cases inside

theorem countP_root_tag (name : String) (attributes : List (String × String)) :
    (tagPlaces [name] attributes).countP Place.isRoot = 1 := by
  have others : (attributes.map fun pair => (⟨[name], some pair.1⟩ : Place)).countP Place.isRoot = 0 := by
    rw [List.countP_eq_zero]
    intro place member
    obtain ⟨pair, _, rfl⟩ := List.mem_map.mp member
    exact Bool.false_ne_true
  rw [tagPlaces, List.countP_cons, others]
  rfl

theorem countP_root_inside {inside : List Place} (deeper : ∀ place ∈ inside, 1 < place.path.length) :
    inside.countP Place.isRoot = 0 := by
  rw [List.countP_eq_zero]
  intro place member isRoot
  have deep := deeper place member
  simp only [Place.isRoot, Bool.and_eq_true, beq_iff_eq] at isRoot
  omega

/-- An element is one root. -/
theorem countP_root (key : String) (value : Json) : (elementPlaces [] key value).countP Place.isRoot = 1 := by
  cases value with
  | null | bool | number | text => rfl
  | array items =>
    rw [elementPlaces_array, List.countP_append, countP_root_tag, countP_root_inside]
    intro place member
    obtain ⟨item, _, inside⟩ := List.mem_flatMap.mp member
    exact around_lt_path inside
  | object fields =>
    rw [elementPlaces_object, List.countP_append, countP_root_tag, countP_root_inside]
    intro place member
    obtain ⟨⟨name, inner⟩, _, inside⟩ := List.mem_flatMap.mp member
    by_cases element : IsElement name
    · rw [fieldPlaces_element element] at inside
      obtain ⟨item, _, inside⟩ := List.mem_flatMap.mp inside
      exact around_lt_path inside
    · rw [fieldPlaces_other element] at inside
      cases inside

/-! ## Names -/

/-- The names in a tag: that of the element and those of its attributes. -/
def Markup.names : Markup → List String
  | .opening name attributes | .closed name attributes => name :: attributes.map (·.1)
  | .closing _ | .text _ => []

/-- All names of a place are written as they are. -/
structure Place.IsFixed (place : Place) : Prop where
  path : ∀ name ∈ place.path, Xml.IsFixed name
  key : ∀ name ∈ place.attribute?, Xml.IsFixed name

theorem fixed_tagPlaces {name : String} {attributes : List (String × String)}
    (aroundFixed : ∀ name ∈ around, IsFixed name) :
    (∀ place ∈ tagPlaces (name :: around) attributes, place.IsFixed) ↔
      ∀ key ∈ name :: attributes.map (·.1), IsFixed key := by
  constructor
  · intro fixed key member
    rcases List.mem_cons.mp member with rfl | named
    · exact (fixed _ List.mem_cons_self).path key List.mem_cons_self
    · obtain ⟨pair, listed, rfl⟩ := List.mem_map.mp named
      exact (fixed ⟨name :: around, some pair.1⟩ (List.mem_cons_of_mem _ (List.mem_map_of_mem listed))).key _ rfl
  · intro fixed place member
    have path : ∀ key ∈ name :: around, IsFixed key :=
      List.forall_mem_cons.mpr ⟨fixed name List.mem_cons_self, aroundFixed⟩
    rcases List.mem_cons.mp member with rfl | later
    · exact ⟨path, nofun⟩
    · obtain ⟨pair, listed, rfl⟩ := List.mem_map.mp later
      refine ⟨path, ?_⟩
      intro key same
      cases same
      exact fixed pair.1 (List.mem_cons_of_mem _ (List.mem_map_of_mem listed))

/-- The places of markup have only names that are written as they are if its tags have. -/
theorem fixed_places (markup : List Markup) (aroundFixed : ∀ name ∈ around, IsFixed name) :
    (∀ place ∈ places around markup, place.IsFixed) ↔ ∀ each ∈ markup, ∀ name ∈ each.names, IsFixed name := by
  induction markup generalizing around with
  | nil => exact ⟨fun _ => nofun, fun _ => nofun⟩
  | cons first markup ih =>
    rw [List.forall_mem_cons]
    cases first with
    | opening name attributes =>
      rw [places, List.forall_mem_append, fixed_tagPlaces aroundFixed]
      apply and_congr_right
      intro fixed
      exact ih (List.forall_mem_cons.mpr ⟨fixed name List.mem_cons_self, aroundFixed⟩)
    | closed name attributes =>
      rw [places, List.forall_mem_append, fixed_tagPlaces aroundFixed, ih aroundFixed]
      rfl
    | closing name =>
      rw [places, ih fun name member => aroundFixed name (List.mem_of_mem_tail member)]
      exact ⟨fun fixed => ⟨nofun, fixed⟩, fun fixed => fixed.2⟩
    | text value =>
      rw [places, ih aroundFixed]
      exact ⟨fun fixed => ⟨nofun, fixed⟩, fun fixed => fixed.2⟩

theorem names_of_fits {inside : List String} {markup : List Markup} (fits : Fits inside markup) :
    ∀ each ∈ markup, ∀ name ∈ each.names, IsFixed name := by
  induction markup generalizing inside with
  | nil => nofun
  | cons first markup ih =>
    rw [List.forall_mem_cons]
    cases first with
    | opening name attributes =>
      obtain ⟨isName, named, fits⟩ := fits
      refine ⟨?_, ih fits⟩
      rw [Markup.names, List.forall_mem_cons, List.forall_mem_map]
      exact ⟨isFixed_iff.mpr isName, fun pair member => isFixed_iff.mpr (named pair member)⟩
    | closed name attributes =>
      obtain ⟨isName, named, fits⟩ := fits
      refine ⟨?_, ih fits⟩
      rw [Markup.names, List.forall_mem_cons, List.forall_mem_map]
      exact ⟨isFixed_iff.mpr isName, fun pair member => isFixed_iff.mpr (named pair member)⟩
    | closing name =>
      cases inside with
      | nil => cases fits
      | cons innermost inside => exact ⟨nofun, ih fits.2.2⟩
    | text value => exact ⟨nofun, ih fits⟩

/-- All names in what is written for a value are written as they are. -/
theorem fixed_elementPlaces (key : String) (value : Json) : ∀ place ∈ elementPlaces [] key value, place.IsFixed := by
  have closes := fits_elementMarkup key value [] [] trivial
  rw [List.append_nil] at closes
  exact (@fixed_places [] _ nofun).mpr (names_of_fits closes)

end Junction.Xml
