import Junction.Proofs.Xml.Decoded

/-!
When the XML text of a value can be read. An element closes what it opens and is read as one child of the element around it
(`readsAs_elementMarkup`), so that a document has one root; but two keys of attributes can be spelled alike, and then it
cannot be read at all (`hasOneRoot_encode_iff`).
-/

namespace Junction.Xml
open Markup (shown shownText)

variable {name : String} {value : Json} {fields : List (String × Json)} {items : List Json} {content : List Markup}

/-! ## Attributes that are apart -/

/-- No element of the value repeats an attribute: the attributes of an object are spelled differently, and so are those of
all elements inside it. -/
inductive Apart : Json → Prop where
  | null : Apart .null
  | bool (value : Bool) : Apart (.bool value)
  | number (value : Number) : Apart (.number value)
  | text (value : String) : Apart (.text value)
  | array {items : List Json} (each : ∀ item ∈ items, Apart item) : Apart (.array items)
  | object {fields : List (String × Json)} (once : ((attributesOf fields).map (·.1)).Nodup)
    (inside : ∀ field ∈ fields, IsElement field.1 → ∀ item ∈ field.2.itemsOf, Apart item) : Apart (.object fields)

theorem apart_array : Apart (.array items) ↔ ∀ item ∈ items, Apart item :=
  ⟨fun | .array each => each, .array⟩

theorem apart_object : Apart (.object fields) ↔ ((attributesOf fields).map (·.1)).Nodup ∧
    ∀ field ∈ fields, IsElement field.1 → ∀ item ∈ field.2.itemsOf, Apart item :=
  ⟨fun | .object once inside => ⟨once, inside⟩, fun both => .object both.1 both.2⟩

theorem isDistinct_fieldMarkup (key : String) (value : Json) : (∀ markup ∈ fieldMarkup key value, markup.IsDistinct) ↔
    (IsElement key → ∀ item ∈ value.itemsOf, ∀ markup ∈ elementMarkup key item, markup.IsDistinct) := by
  rw [fieldMarkup]
  split
  · rename_i dash
    simp [IsElement, dash]
  · rename_i noDash
    split
    · rename_i text
      simp [IsElement, text, Markup.IsDistinct, Markup.attributes]
    · rename_i noText
      have element : IsElement key := ⟨Bool.eq_false_iff.mpr noDash, noText⟩
      simp only [List.forall_mem_flatMap, element, forall_const]

theorem isDistinct_of_bare {markup : Markup} (bare : markup.attributes = []) : markup.IsDistinct := by
  rw [Markup.IsDistinct, bare]
  exact List.nodup_nil

theorem isDistinct_wrapped (name text : String) :
    ∀ markup ∈ [Markup.opening name [], .text text, .closing name], markup.IsDistinct := by
  simp only [List.forall_mem_cons]
  exact ⟨isDistinct_of_bare rfl, isDistinct_of_bare rfl, isDistinct_of_bare rfl, nofun⟩

/-- The markup of an element repeats no attribute if and only if its value does not. -/
theorem isDistinct_elementMarkup_iff (key : String) (value : Json) :
    (∀ markup ∈ elementMarkup key value, markup.IsDistinct) ↔ Apart value := by
  induction value using Json.inner generalizing key with
  | null => exact ⟨fun _ => .null, fun _ => List.forall_mem_singleton.mpr (isDistinct_of_bare rfl)⟩
  | bool value => exact ⟨fun _ => .bool value, fun _ => isDistinct_wrapped _ _⟩
  | number value => exact ⟨fun _ => .number value, fun _ => isDistinct_wrapped _ _⟩
  | text value => exact ⟨fun _ => .text value, fun _ => isDistinct_wrapped _ _⟩
  | array items ih =>
    rw [elementMarkup, itemsMarkup_eq, apart_array, List.forall_mem_cons, List.forall_mem_append,
      List.forall_mem_flatMap, List.forall_mem_singleton]
    have each := forall₂_congr fun item member => ih item member itemName
    rw [each]
    exact ⟨fun all => all.2.1, fun all => ⟨isDistinct_of_bare rfl, all, isDistinct_of_bare rfl⟩⟩
  | object fields ih =>
    rw [elementMarkup, fieldsMarkup_eq, apart_object, List.forall_mem_cons, List.forall_mem_append,
      List.forall_mem_flatMap, List.forall_mem_singleton]
    have each : (∀ field ∈ fields, ∀ markup ∈ fieldMarkup field.1 field.2, markup.IsDistinct) ↔
        ∀ field ∈ fields, IsElement field.1 → ∀ item ∈ field.2.itemsOf, Apart item := by
      refine forall₂_congr fun field member => ?_
      rw [isDistinct_fieldMarkup]
      exact imp_congr_right fun _ => forall₂_congr fun item inside => ih field member item inside field.1
    rw [each]
    exact ⟨fun all => ⟨all.1, all.2.1⟩, fun both => ⟨both.1, both.2, isDistinct_of_bare rfl⟩⟩

/-! ## Elements that are read -/

/-- The element with one more text, as it reads between tags. -/
def OpenElement.withText (element : OpenElement) (s : List Char) : OpenElement :=
  { element with text := element.text ++ Markup.withoutEnd (s.dropWhile Markup.isSpace) }

theorem valueOn_shownText (s : List Char) (top : OpenElement) (outer : List OpenElement) (rest : List Markup) :
    valueOn top outer (shownText s ++ rest) = valueOn (top.withText s) outer rest := by
  rw [shownText, OpenElement.withText]
  cases Markup.withoutEnd (s.dropWhile Markup.isSpace) with
  | nil => simp
  | cons c s => simp [valueOn]

/-- What stands inside an element is read to its end, and the element stays the innermost one. -/
def Passes (content : List Markup) : Prop :=
  ∀ (begun : List Char) (top : OpenElement) (outer : List OpenElement) (rest : List Markup),
    ∃ (begun' : List Char) (top' : OpenElement), top'.name = top.name ∧
      valueOn top outer (shown begun (content ++ rest)) = valueOn top' outer (shown begun' rest)

/-- Markup is read as one more child of the innermost element, which is no array. -/
def ReadsAs (name : String) (markup : List Markup) : Prop :=
  ∀ (begun : List Char) (top : OpenElement) (outer : List OpenElement) (rest : List Markup),
    ∃ child : Json, (∀ items, child ≠ .array items) ∧
      valueOn top outer (shown begun (markup ++ rest)) =
        valueOn ((top.withText begun).withChild name child) outer (shown [] rest)

theorem passes_nil : Passes [] := fun begun top _ _ => ⟨begun, top, rfl, rfl⟩

theorem passes_text (value : String) : Passes [.text value] :=
  fun begun top _ _ => ⟨begun ++ value.toList, top, rfl, rfl⟩

theorem passes_append {more : List Markup} (first : Passes content) (second : Passes more) : Passes (content ++ more) := by
  intro begun top outer rest
  obtain ⟨begun', top', same, reads⟩ := first begun top outer (more ++ rest)
  obtain ⟨begun'', top'', same', reads'⟩ := second begun' top' outer rest
  exact ⟨begun'', top'', same'.trans same, by rw [List.append_assoc, reads, reads']⟩

theorem passes_flatMap {α : Type} {markup : α → List Markup} {parts : List α} (each : ∀ part ∈ parts, Passes (markup part)) :
    Passes (parts.flatMap markup) := by
  induction parts with
  | nil => exact passes_nil
  | cons part parts ih =>
    obtain ⟨first, others⟩ := List.forall_mem_cons.mp each
    exact passes_append first (ih others)

theorem ReadsAs.passes (reads : ReadsAs name content) : Passes content := by
  intro begun top outer rest
  obtain ⟨child, _, same⟩ := reads begun top outer rest
  refine ⟨[], _, ?_, same⟩
  rfl

theorem readsAs_closed (name : String) (attributes : List (String × String)) : ReadsAs name [.closed name attributes] := by
  intro begun top outer rest
  refine ⟨(OpenElement.start name attributes).value, value_ne_array _, ?_⟩
  exact valueOn_shownText begun top outer _

theorem readsAs_wrapped (passes : Passes content) (name : String) (attributes : List (String × String)) :
    ReadsAs name (.opening name attributes :: (content ++ [.closing name])) := by
  intro begun top outer rest
  let around := top.withText begun
  obtain ⟨begun', inner, same, reads⟩ := passes [] (.start name attributes) (around :: outer) (.closing name :: rest)
  let whole := inner.withText begun'
  have named : whole.name = name := same
  refine ⟨whole.value, value_ne_array whole, ?_⟩
  calc valueOn top outer (shown begun (.opening name attributes :: (content ++ [.closing name]) ++ rest))
      = valueOn (.start name attributes) (around :: outer) (shown [] (content ++ .closing name :: rest)) := by
        rw [List.cons_append, List.append_assoc, List.singleton_append]
        exact valueOn_shownText begun top outer _
    _ = valueOn inner (around :: outer) (shownText begun' ++ .closing name :: shown [] rest) := reads
    _ = valueOn (around.withChild whole.name whole.value) outer (shown [] rest) := valueOn_shownText ..
    _ = valueOn (around.withChild name whole.value) outer (shown [] rest) := by rw [named]

/-- The element of a value is read as one more child of the element around it. -/
theorem readsAs_elementMarkup (key : String) (value : Json) : ReadsAs (spelled key) (elementMarkup key value) := by
  induction value using Json.inner generalizing key with
  | null => exact readsAs_closed (spelled key) []
  | bool | number | text => exact readsAs_wrapped (passes_text _) (spelled key) []
  | array items ih =>
    rw [elementMarkup, itemsMarkup_eq]
    exact readsAs_wrapped (passes_flatMap fun item member => (ih item member itemName).passes) (spelled key) []
  | object fields ih =>
    rw [elementMarkup, fieldsMarkup_eq]
    refine readsAs_wrapped (passes_flatMap fun field member => ?_) (spelled key) (attributesOf fields)
    rw [fieldMarkup]
    split
    · exact passes_nil
    · split
      · exact passes_text _
      · exact passes_flatMap fun item inside => (ih field member item inside field.1).passes

/-! ## Documents -/

/-- Bytes that are read as a document with exactly one root element and nothing beside it. -/
def HasOneRoot (bytes : ByteArray) : Prop :=
  ∃ name child, decode bytes = .ok (.object [(name, child)]) ∧ ∀ items, child ≠ .array items

theorem apart_itemsOf (value : Json) : (∀ item ∈ value.itemsOf, Apart item) ↔ Apart value := by
  cases value with
  | array items => exact apart_array.symm
  | null | bool | number | text | object => exact List.forall_mem_singleton

/-- The root element repeats an attribute where the value does. -/
theorem apart_rooted (value : Json) : Apart (rooted value).2 ↔ Apart value := by
  rw [rooted.eq_def]
  split
  · rename_i key inner
    split
    · exact Iff.rfl
    · rename_i element
      obtain ⟨noDash, noText⟩ : isAttribute key = false ∧ key ≠ textName := by simpa using element
      rw [apart_object, attributesOf_singleton noDash, List.forall_mem_singleton, apart_itemsOf]
      exact ⟨fun apart => ⟨List.nodup_nil, fun _ => apart⟩, fun both => both.2 ⟨noDash, noText⟩⟩
  · exact Iff.rfl

theorem decode_encode_of_apart (declared : Bool) (apart : Apart value) :
    ∃ child, decode (encode declared value).toUTF8 = .ok (.object [(spelled (rooted value).1, child)]) ∧
      ∀ items, child ≠ .array items := by
  have distinct : ∀ markup ∈ documentMarkup value, markup.IsDistinct :=
    (isDistinct_elementMarkup_iff ..).mpr ((apart_rooted value).mpr apart)
  obtain ⟨child, single, reads⟩ := readsAs_elementMarkup (rooted value).1 (rooted value).2 [] (.start "" []) [] []
  refine ⟨child, ?_, single⟩
  rw [decode, ofBytes?_encode, if_pos distinct]
  rw [List.append_nil] at reads
  exact (valueOf_eq _ _).trans reads

theorem decode_encode_of_not_apart (declared : Bool) (repeats : ¬ Apart value) :
    decode (encode declared value).toUTF8 = .error .malformed := by
  have again : ¬ ∀ markup ∈ documentMarkup value, markup.IsDistinct := by
    rw [documentMarkup, isDistinct_elementMarkup_iff, apart_rooted]
    exact repeats
  rw [decode, ofBytes?_encode, if_neg again]

/-- The XML text of a value, with or without a declaration, is read as a document with exactly one root element if and only
if no element repeats an attribute. Else it cannot be read. -/
theorem hasOneRoot_encode_iff (declared : Bool) (value : Json) :
    (HasOneRoot (encode declared value).toUTF8 ↔ Apart value) ∧
      (¬ Apart value → decode (encode declared value).toUTF8 = .error .malformed) := by
  refine ⟨⟨?_, ?_⟩, decode_encode_of_not_apart declared⟩
  · rintro ⟨name, child, reads, _⟩
    by_contra repeats
    rw [decode_encode_of_not_apart declared repeats] at reads
    cases reads
  · intro apart
    obtain ⟨child, reads, single⟩ := decode_encode_of_apart declared apart
    exact ⟨_, child, reads, single⟩

/-- An element with two attributes whose keys are spelled alike. -/
def alike : Json := .object [("a", .object [("-x y", Json.ofNat 1), ("-x_y", Json.ofNat 2)])]

theorem decode_encode_alike :
    encode true alike = "<?xml version=\"1.0\" encoding=\"UTF-8\"?><a x_y=\"1\" x_y=\"2\"></a>" ∧
      decode (encode true alike).toUTF8 = .error .malformed := by
  refine ⟨by decide +kernel, ?_⟩
  apply decode_encode_of_not_apart
  intro apart
  have inner := (apart_object.mp apart).2 _ List.mem_cons_self ⟨by decide, by decide⟩ _ (List.mem_singleton_self _)
  exact absurd (apart_object.mp inner).1 (by decide)

end Junction.Xml
