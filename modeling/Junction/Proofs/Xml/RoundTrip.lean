import Junction.Proofs.Text.Trim
import Junction.Proofs.Xml.Stack

/-!
Values that come back as they are when they are written as XML and read again: those in normal form, which is what an
element is read as if no name in it has to be changed (`IsNormal`).
-/

namespace Junction.Xml
open Markup (shown shownText)

/-- A text that is not empty and has no white space around it. -/
def IsClear (value : String) : Prop := value ≠ "" ∧ Text.trim value = value

instance (value : String) : Decidable (IsClear value) :=
  inferInstanceAs (Decidable (value ≠ "" ∧ Text.trim value = value))

/-- The fields of an element: its attributes, the elements in it, and last the text beside them. -/
def content (attributes : List (String × String)) (elements : List (String × Json)) (text : Option String) :
    List (String × Json) :=
  attributeFields attributes ++ (elements ++ (text.map fun value => (textName, .text value)).toList)

/-- A value of an element in normal form: null, a text, or fields. A field of elements holds a node, or an array of at
least two. -/
inductive IsNode : Json → Prop where
  | null : IsNode .null
  | text {value : String} (clear : IsClear value) : IsNode (.text value)
  | object {attributes : List (String × String)} {elements : List (String × Json)} {text : Option String}
      (attributesFixed : ∀ pair ∈ attributes, IsFixed pair.1) (attributesOnce : (attributes.map (·.1)).Nodup)
      (elementsFixed : ∀ field ∈ elements, IsFixed field.1) (elementsOnce : (elements.map (·.1)).Nodup)
      (nodes : ∀ field ∈ elements, ∀ item ∈ field.2.itemsOf, IsNode item)
      (repeated : ∀ field ∈ elements, ∀ items, field.2 = .array items → 2 ≤ items.length)
      (clear : ∀ value ∈ text, IsClear value) (filled : attributes ≠ [] ∨ elements ≠ []) :
      IsNode (.object (content attributes elements text))

/-- A value in normal form: an object with one element. -/
def IsNormal (value : Json) : Prop := ∃ key node, value = .object [(key, node)] ∧ IsFixed key ∧ IsNode node

variable {key : String} {node : Json} {attributes : List (String × String)} {elements : List (String × Json)}
  {text : Option String}

theorem IsClear.trimmed {value : String} (clear : IsClear value) : Text.trimmed value.toList = value.toList := by
  have whole := congrArg String.toList clear.2
  rwa [Text.trim, String.toList_ofList] at whole

theorem IsClear.filled {value : String} (clear : IsClear value) : value.toList.isEmpty = false := by
  rw [List.isEmpty_eq_false_iff]
  intro none
  exact clear.1 (String.toList_eq_nil_iff.mp none)

/-! ## What is written -/

theorem attributesOf_content (attributesFixed : ∀ pair ∈ attributes, IsFixed pair.1)
    (elementsFixed : ∀ field ∈ elements, IsFixed field.1) :
    attributesOf (content attributes elements text) = attributes := by
  have others : ∀ field ∈ elements ++ (text.map fun value => (textName, Json.text value)).toList,
      isAttribute field.1 = false := by
    intro field member
    rcases List.mem_append.mp member with element | beside
    · exact (isElement_of_fixed (elementsFixed field element)).1
    · cases text with
      | none => cases beside
      | some value =>
        rw [List.mem_singleton.mp beside]
        exact isAttribute_textName
  rw [content, attributesOf_append, attributesOf_attributeFields attributesFixed, attributesOf_eq_nil others, List.append_nil]

theorem fieldsMarkup_content (elementsFixed : ∀ field ∈ elements, IsFixed field.1) :
    fieldsMarkup (content attributes elements text) =
      elements.flatMap (fun field => field.2.itemsOf.flatMap (elementMarkup field.1)) ++
        (text.map Markup.text).toList := by
  rw [fieldsMarkup_eq, content, List.flatMap_append, ← fieldsMarkup_eq, fieldsMarkup_attributeFields, List.nil_append,
    List.flatMap_append]
  congr 1
  · apply List.flatMap_congr
    intro field member
    exact fieldMarkup_element (isElement_of_fixed (elementsFixed field member)) field.2
  · cases text with
    | none => rfl
    | some value =>
      simp only [Option.map_some, Option.toList_some, List.flatMap_singleton, fieldMarkup_text]
      rfl

/-! ## What is shown -/

theorem isWhite_of_isSpace {c : Char} (space : Markup.isSpace c = true) : Text.isWhite c = true := by
  simp only [Markup.isSpace, Bool.or_eq_true, beq_iff_eq] at space
  rcases space with ((rfl | rfl) | rfl) | rfl <;> decide

/-- A text without white space around it is shown as it is. -/
theorem shownText_clear {value : String} (clear : IsClear value) : shownText value.toList = [.text value] := by
  have tight : Text.Tight value.toList := by
    rw [← clear.trimmed]
    exact Text.tight_trimmed value.toList
  have kept : ∀ s : List Char, (∀ c ∈ s.head?, Text.isWhite c = false) → s.dropWhile Markup.isSpace = s := by
    intro s first
    cases s with
    | nil => rfl
    | cons c s =>
      apply List.dropWhile_cons_of_neg
      intro space
      have notWhite := first c rfl
      rw [isWhite_of_isSpace space] at notWhite
      cases notWhite
  have last : ∀ c ∈ value.toList.reverse.head?, Text.isWhite c = false := by
    intro c member
    rw [List.head?_reverse] at member
    exact tight.last c member
  simp only [shownText, Markup.withoutEnd, kept _ tight.first, kept _ last, List.reverse_reverse, clear.filled,
    String.ofList_toList, Bool.false_eq_true, if_false]

theorem shown_flatMap {α : Type} {markup : α → List Markup} {parts : List α}
    (each : ∀ part ∈ parts, ∀ rest, shown [] (markup part ++ rest) = markup part ++ shown [] rest) (rest : List Markup) :
    shown [] (parts.flatMap markup ++ rest) = parts.flatMap markup ++ shown [] rest := by
  induction parts with
  | nil => rfl
  | cons part parts ih =>
    rw [List.flatMap_cons, List.append_assoc, List.append_assoc, each part List.mem_cons_self,
      ih fun other member => each other (List.mem_cons_of_mem part member)]

/-- The markup of a node is shown as it is. -/
theorem shown_node (isNode : IsNode node) (key : String) (rest : List Markup) :
    shown [] (elementMarkup key node ++ rest) = elementMarkup key node ++ shown [] rest := by
  induction isNode generalizing key rest with
  | null => rfl
  | @text value clear =>
    have shows := shownText_clear clear
    simp only [elementMarkup, List.cons_append, List.nil_append, shown, Json.plainText, shows]
    rfl
  | @object attributes elements text _ _ elementsFixed _ _ _ clear _ ih =>
    simp only [elementMarkup, fieldsMarkup_content elementsFixed, List.cons_append, List.append_assoc]
    have later := @shown_flatMap _ (fun field : String × Json => field.2.itemsOf.flatMap (elementMarkup field.1)) elements
      fun field member => shown_flatMap fun item inside => ih field member item inside field.1
    simp only [shown, later]
    cases text with
    | none => rfl
    | some value =>
      have shows := shownText_clear (clear value rfl)
      simp only [Option.map_some, Option.toList_some, List.cons_append, List.nil_append, shown, shows]
      rfl

/-! ## What is read -/

theorem valueOn_items {items : List Json} (each : ∀ item ∈ items, ∀ top outer rest,
      valueOn top outer (elementMarkup key item ++ rest) = valueOn (top.withChild key item) outer rest)
    (top : OpenElement) (outer : List OpenElement) (rest : List Markup) :
    valueOn top outer (items.flatMap (elementMarkup key) ++ rest) =
      valueOn { top with fields := items.foldl (fun fields item => insertChild fields key item) top.fields } outer rest := by
  induction items generalizing top with
  | nil => rfl
  | cons item items ih =>
    rw [List.flatMap_cons, List.append_assoc, each item List.mem_cons_self,
      ih fun other member => each other (List.mem_cons_of_mem item member)]
    rfl

/-- The items of a field, put one after another, are that field again. -/
theorem foldl_insertChild {fields : List (String × Json)} (absent : key ∉ fields.map (·.1)) {value : Json}
    (nodes : ∀ item ∈ value.itemsOf, IsNode item) (repeated : ∀ items, value = .array items → 2 ≤ items.length) :
    value.itemsOf.foldl (fun fields item => insertChild fields key item) fields = fields ++ [(key, value)] := by
  have later : ∀ more items : List Json, more.foldl (fun fields item => insertChild fields key item)
      (fields ++ [(key, .array items)]) = fields ++ [(key, .array (items ++ more))] := by
    intro more
    induction more with
    | nil => intro items; rw [List.foldl_nil, List.append_nil]
    | cons item more ih =>
      intro items
      rw [List.foldl_cons, insertChild_again absent, Json.itemsOf, ih, List.append_assoc, List.singleton_append]
  cases value with
  | array items =>
    have enough := repeated items rfl
    rcases items with _ | ⟨first, _ | ⟨second, more⟩⟩
    · exact absurd enough (Nat.not_succ_le_zero 1)
    · exact absurd enough (Nat.lt_irrefl 1)
    · -- the second item makes an array of the first, which is no array itself
      have single : first.itemsOf = [first] := by
        cases nodes first List.mem_cons_self <;> rfl
      rw [Json.itemsOf, List.foldl_cons, insertChild_first absent, List.foldl_cons, insertChild_again absent, single, later]
      rfl
  | null | bool | number | text | object => exact insertChild_first absent _

theorem valueOn_elements (nodes : ∀ field ∈ elements, ∀ item ∈ field.2.itemsOf, IsNode item)
    (repeated : ∀ field ∈ elements, ∀ items, field.2 = .array items → 2 ≤ items.length)
    (each : ∀ field ∈ elements, ∀ item ∈ field.2.itemsOf, ∀ top outer rest,
      valueOn top outer (elementMarkup field.1 item ++ rest) = valueOn (top.withChild field.1 item) outer rest)
    (top : OpenElement) (distinct : ((top.fields ++ elements).map (·.1)).Nodup) (outer : List OpenElement)
    (rest : List Markup) :
    valueOn top outer (elements.flatMap (fun field => field.2.itemsOf.flatMap (elementMarkup field.1)) ++ rest) =
      valueOn { top with fields := top.fields ++ elements } outer rest := by
  induction elements generalizing top with
  | nil => rw [List.append_nil]; rfl
  | cons field elements ih =>
    have absent : field.1 ∉ top.fields.map (·.1) := by
      rw [List.map_append, List.map_cons] at distinct
      intro member
      exact (List.nodup_append.mp distinct).2.2 field.1 member field.1 List.mem_cons_self rfl
    rw [List.append_cons] at distinct
    rw [List.flatMap_cons, List.append_assoc, valueOn_items (each field List.mem_cons_self),
      foldl_insertChild absent (nodes field List.mem_cons_self) (repeated field List.mem_cons_self),
      ih (fun other member => nodes other (List.mem_cons_of_mem field member))
        (fun other member => repeated other (List.mem_cons_of_mem field member))
        (fun other member => each other (List.mem_cons_of_mem field member)) _ distinct]
    simp only [List.append_assoc, List.singleton_append]

/-- The fields of an element have distinct names. -/
theorem nodup_content (attributesOnce : (attributes.map (·.1)).Nodup) (elementsFixed : ∀ field ∈ elements, IsFixed field.1)
    (elementsOnce : (elements.map (·.1)).Nodup) :
    ((attributeFields attributes ++ elements).map (·.1)).Nodup ∧
      textName ∉ (attributeFields attributes ++ elements).map (·.1) := by
  have dashed : ∀ key ∈ (attributeFields attributes).map (·.1), isAttribute key = true := by
    intro key member
    rw [names_attributeFields] at member
    obtain ⟨name, _, rfl⟩ := List.mem_map.mp member
    exact isAttribute_dash name
  have plain : ∀ key ∈ elements.map (·.1), isAttribute key = false ∧ key ≠ textName := by
    intro key member
    obtain ⟨field, element, rfl⟩ := List.mem_map.mp member
    exact isElement_of_fixed (elementsFixed field element)
  rw [List.map_append]
  constructor
  · rw [List.nodup_append]
    refine ⟨?_, elementsOnce, ?_⟩
    · rw [names_attributeFields]
      exact attributesOnce.map dash_injective
    · rintro key first _ second rfl
      have dash := dashed key first
      rw [(plain key second).1] at dash
      cases dash
  · intro member
    rcases List.mem_append.mp member with first | second
    · exact absurd (dashed textName first) (by decide)
    · exact (plain textName second).2 rfl

/-- The value of an element with these fields and this text. -/
theorem value_content {name : String} (once : textName ∉ (attributeFields attributes ++ elements).map (·.1))
    (clear : ∀ value ∈ text, IsClear value) (filled : attributes ≠ [] ∨ elements ≠ []) :
    (OpenElement.mk name (attributeFields attributes ++ elements) ((text.map String.toList).getD [])).value =
      .object (content attributes elements text) := by
  have nonempty : (attributeFields attributes ++ elements).isEmpty = false := by
    rw [List.isEmpty_eq_false_iff, ne_eq, List.append_eq_nil_iff, attributeFields, List.map_eq_nil_iff]
    rintro ⟨noAttributes, noElements⟩
    rcases filled with some | some
    · exact some noAttributes
    · exact some noElements
  cases text with
  | none =>
    have blank : Text.trimmed [] = [] := rfl
    simp [OpenElement.value, nonempty, blank, content]
  | some value =>
    have isClear := clear value rfl
    simp only [OpenElement.value, Option.map_some, Option.getD_some, isClear.trimmed, isClear.filled, nonempty,
      Bool.false_eq_true, if_false, String.ofList_toList, Keyed.put_of_absent once, content, Option.toList_some,
      List.append_assoc]

/-- The markup of a node is read as one more child with this value. -/
theorem valueOn_node (isNode : IsNode node) (fixed : IsFixed key) (top : OpenElement) (outer : List OpenElement)
    (rest : List Markup) :
    valueOn top outer (elementMarkup key node ++ rest) = valueOn (top.withChild key node) outer rest := by
  induction isNode generalizing key top outer rest with
  | null =>
    rw [elementMarkup, show spelled key = key from fixed]
    rfl
  | @text value clear =>
    simp [elementMarkup, valueOn, show spelled key = key from fixed, OpenElement.value, OpenElement.start, Keyed.ofList,
      Json.plainText, clear.trimmed, clear.filled]
  | @object attributes elements text attributesFixed attributesOnce elementsFixed elementsOnce nodes repeated clear filled ih =>
    obtain ⟨distinct, once⟩ := nodup_content attributesOnce elementsFixed elementsOnce
    have each : ∀ field ∈ elements, ∀ item ∈ field.2.itemsOf, ∀ top outer rest,
        valueOn top outer (elementMarkup field.1 item ++ rest) = valueOn (top.withChild field.1 item) outer rest := by
      intro field member item inside
      exact ih field member item inside (elementsFixed field member)
    simp only [elementMarkup, attributesOf_content attributesFixed elementsFixed, fieldsMarkup_content elementsFixed,
      List.cons_append, List.append_assoc, valueOn, show spelled key = key from fixed, start_eq attributesOnce]
    rw [valueOn_elements nodes repeated each _ distinct]
    -- a text stands last, so it meets no other text and is all the text of the element
    rw [← @value_content _ _ _ key once clear filled]
    cases text <;> rfl

/-! ## The round trip -/

theorem isDistinct_node (isNode : IsNode node) (key : String) : ∀ markup ∈ elementMarkup key node, markup.IsDistinct := by
  have bare : (([] : List (String × String)).map (·.1)).Nodup := List.nodup_nil
  induction isNode generalizing key with
  | null =>
    intro markup member
    rw [List.mem_singleton.mp member]
    exact bare
  | text =>
    simp only [elementMarkup, List.forall_mem_cons]
    exact ⟨bare, bare, bare, List.forall_mem_nil _⟩
  | @object attributes elements text attributesFixed attributesOnce elementsFixed _ _ _ _ _ ih =>
    apply isDistinct_object
    · rwa [attributesOf_content attributesFixed elementsFixed]
    · rw [fieldsMarkup_content elementsFixed]
      intro markup member
      simp only [List.mem_append, List.mem_flatMap, Option.mem_toList, Option.map_eq_some_iff] at member
      rcases member with ⟨field, element, item, inside, inner⟩ | ⟨value, _, rfl⟩
      · exact ih field element item inside field.1 markup inner
      · exact bare

theorem decode_encode {value : Json} (normal : IsNormal value) (declared : Bool) :
    decode (encode declared value).toUTF8 = .ok value := by
  obtain ⟨key, node, rfl, fixed, isNode⟩ := normal
  obtain ⟨element, notText⟩ := isElement_of_fixed fixed
  have root : documentMarkup (.object [(key, node)]) = elementMarkup key node := by
    simp [documentMarkup, rooted, element, notText]
  have shows := shown_node isNode key []
  have reads := valueOn_node isNode fixed (.start "" []) [] []
  rw [List.append_nil, show shown [] [] = [] from rfl, List.append_nil] at shows
  rw [List.append_nil] at reads
  rw [decode, ofBytes?_encode, root, if_pos (isDistinct_node isNode key), shows]
  exact (valueOf_eq _ _).trans reads

end Junction.Xml

namespace Junction.Body
open Xml (IsNormal IsFixed IsNode content)

/-- A value in normal form comes back when it is written as XML, with or without a declaration, so an XML body that
holds one still holds it after it has been written again. -/
theorem keeps_normal {value : Json} (normal : IsNormal value) :
    (∀ declared, Xml.decode (Xml.encode declared value).toUTF8 = .ok value) ∧
      ∀ body : Body, body.format = .xml → body.decode = .ok value →
        ∃ kept, body.reshape id = .ok kept ∧ kept.format = .xml ∧ kept.decode = .ok value := by
  refine ⟨Xml.decode_encode normal, ?_⟩
  intro body format decoded
  refine ⟨_, reshape_xml format decoded id, format, ?_⟩
  exact (decode_xml_iff (show (body.withText _).format = .xml from format)).mpr (Xml.decode_encode normal _)

/-- An order with attributes, elements of one name, an element without content, and text beside elements. -/
def order : Json :=
  .object [("order", .object (content [("id", "7"), ("note", "<\x22&")]
    [("line", .array [.null, .text "A > B", .object (content [("n", "1")] [("part", .text "é")] (some "it's")) ]),
      ("empty", .null)] (some "x & y")))]

theorem isNode_line : IsNode (.object (content [("n", "1")] [("part", .text "é")] (some "it's"))) := by
  apply IsNode.object (by decide) (by decide) (by decide) (by decide)
  · simp only [List.forall_mem_singleton, Json.itemsOf]
    exact .text (by decide)
  · simp
  · decide
  · decide

theorem isNormal_order : IsNormal order := by
  refine ⟨"order", _, rfl, by decide, ?_⟩
  apply IsNode.object (by decide) (by decide) (by decide) (by decide)
  · simp only [List.forall_mem_cons, Json.itemsOf]
    exact ⟨⟨.null, .text (by decide), isNode_line, List.forall_mem_nil _⟩, ⟨.null, List.forall_mem_nil _⟩,
      List.forall_mem_nil _⟩
  · simp
  · decide
  · decide

theorem keeps_normal_order : IsNormal order ∧ Xml.decode (Xml.encode true order).toUTF8 = .ok order :=
  ⟨isNormal_order, (keeps_normal isNormal_order).1 true⟩

end Junction.Body
