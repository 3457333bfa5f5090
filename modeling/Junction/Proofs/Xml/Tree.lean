import Junction.Message.Body
import Junction.Proofs.Json.Inner
import Junction.Proofs.Xml.Markup

/-!
The markup that a value is written as: it is what is written (`written_documentMarkup`), it closes the elements that it
opens (`fits_elementMarkup`), and it reads as what it shows (`ofBytes?_encode`).
-/

namespace Junction.Xml
open Markup (written Fits shown tagText writtenAttribute)

/-- The attributes among the fields as they are written. -/
def attributesOf (fields : List (String × Json)) : List (String × String) :=
  (fields.filter fun field => isAttribute field.1).map fun (key, value) =>
    (spelled (String.ofList (key.toList.drop 1)), value.plainText)

mutual

/-- The markup of the element of a value. -/
def elementMarkup (key : String) : Json → List Markup
  | .null => [.closed (spelled key) []]
  | .object fields =>
    .opening (spelled key) (attributesOf fields) :: (fieldsMarkup fields ++ [.closing (spelled key)])
  | .array items => .opening (spelled key) [] :: (itemsMarkup itemName items ++ [.closing (spelled key)])
  | scalar => [.opening (spelled key) [], .text scalar.plainText, .closing (spelled key)]

/-- The markup of elements of one name. -/
def itemsMarkup (key : String) : List Json → List Markup
  | [] => []
  | item :: rest => elementMarkup key item ++ itemsMarkup key rest

/-- The markup inside the element of an object. -/
def fieldsMarkup : List (String × Json) → List Markup
  | [] => []
  | (key, value) :: rest =>
    (if isAttribute key then []
      else if key = textName then [.text value.plainText]
      else match value with
        | .array items => itemsMarkup key items
        | other => elementMarkup key other) ++ fieldsMarkup rest

end

/-- The markup of one field of an object. -/
def fieldMarkup (key : String) (value : Json) : List Markup :=
  if isAttribute key then []
  else if key = textName then [.text value.plainText]
  else value.itemsOf.flatMap (elementMarkup key)

/-- The root element that is written for a value: its name and its value. -/
def rooted (value : Json) : String × Json :=
  match value with
  | .object [(key, inner)] => if isAttribute key || key == textName then (rootName, value) else (key, inner)
  | other => (rootName, other)

/-- The markup of a document. -/
def documentMarkup (value : Json) : List Markup := elementMarkup (rooted value).1 (rooted value).2

/-- The fields that attributes are read as. -/
def attributeFields (attributes : List (String × String)) : List (String × Json) :=
  attributes.map fun pair => ("-" ++ pair.1, .text pair.2)

variable {key : String} {fields : List (String × Json)} {attributes : List (String × String)}

theorem itemsMarkup_eq (key : String) (items : List Json) : itemsMarkup key items = items.flatMap (elementMarkup key) := by
  induction items with
  | nil => rfl
  | cons item rest ih => rw [itemsMarkup, ih, List.flatMap_cons]

theorem fieldsMarkup_eq (fields : List (String × Json)) :
    fieldsMarkup fields = fields.flatMap fun field => fieldMarkup field.1 field.2 := by
  induction fields with
  | nil => rfl
  | cons field rest ih =>
    obtain ⟨key, value⟩ := field
    rw [List.flatMap_cons, ← ih, fieldMarkup]
    cases value with
    | array items => rw [fieldsMarkup, itemsMarkup_eq, Json.itemsOf]
    | null | bool | number | text | object => simp only [fieldsMarkup, Json.itemsOf, List.flatMap_singleton]

/-! ## Fields -/

theorem isAttribute_textName : isAttribute textName = false := by decide

theorem fieldMarkup_text (value : Json) : fieldMarkup textName value = [.text value.plainText] := by
  rw [fieldMarkup, isAttribute_textName, if_neg Bool.false_ne_true, if_pos rfl]

theorem fieldMarkup_element (element : IsElement key) (value : Json) :
    fieldMarkup key value = value.itemsOf.flatMap (elementMarkup key) := by
  rw [fieldMarkup, element.1, if_neg Bool.false_ne_true, if_neg element.2]

theorem fieldsMarkup_attributeFields (attributes : List (String × String)) :
    fieldsMarkup (attributeFields attributes) = [] := by
  rw [fieldsMarkup_eq, List.flatMap_eq_nil_iff]
  intro field member
  obtain ⟨pair, _, rfl⟩ := List.mem_map.mp member
  rw [fieldMarkup, isAttribute_dash, if_pos rfl]

theorem attributesOf_append (fields more : List (String × Json)) :
    attributesOf (fields ++ more) = attributesOf fields ++ attributesOf more := by
  rw [attributesOf, List.filter_append, List.map_append, attributesOf, attributesOf]

theorem attributesOf_attributeFields (fixed : ∀ pair ∈ attributes, IsFixed pair.1) :
    attributesOf (attributeFields attributes) = attributes := by
  have all : (attributeFields attributes).filter (fun field => isAttribute field.1) = attributeFields attributes := by
    rw [List.filter_eq_self]
    intro field member
    obtain ⟨pair, _, rfl⟩ := List.mem_map.mp member
    exact isAttribute_dash pair.1
  rw [attributesOf, all, attributeFields, List.map_map]
  conv => rhs; rw [← List.map_id attributes]
  apply List.map_congr_left
  intro pair member
  simp only [Function.comp_apply, drop_dash, id]
  rw [show spelled pair.1 = pair.1 from fixed pair member]
  rfl

theorem attributesOf_eq_nil (others : ∀ field ∈ fields, isAttribute field.1 = false) : attributesOf fields = [] := by
  rw [attributesOf, List.map_eq_nil_iff, List.filter_eq_nil_iff]
  intro field member
  rw [others field member]
  exact Bool.false_ne_true

theorem isDistinct_object (key : String) (distinct : ((attributesOf fields).map (·.1)).Nodup)
    (inside : ∀ markup ∈ fieldsMarkup fields, markup.IsDistinct) :
    ∀ markup ∈ elementMarkup key (.object fields), markup.IsDistinct := by
  rw [elementMarkup, List.forall_mem_cons, List.forall_mem_append, List.forall_mem_singleton]
  exact ⟨distinct, inside, List.nodup_nil⟩

/-! ## What is written -/

theorem writeAttributes_eq (fields : List (String × Json)) :
    writeAttributes fields = (attributesOf fields).flatMap writtenAttribute := by
  rw [writeAttributes, attributesOf, List.flatMap_map]
  apply List.flatMap_congr
  intro field _
  simp [writtenAttribute, spelled, writeText]

theorem writeItems_eq (key : String) (items : List Json) : writeItems key items = items.flatMap (writeElement key) := by
  induction items with
  | nil => rfl
  | cons item rest ih => rw [writeItems, ih, List.flatMap_cons]

theorem writeFields_eq (fields : List (String × Json)) :
    writeFields fields = fields.flatMap fun field =>
      if isAttribute field.1 then []
      else if field.1 = textName then writeText field.2
      else field.2.itemsOf.flatMap (writeElement field.1) := by
  induction fields with
  | nil => rfl
  | cons field rest ih =>
    obtain ⟨key, value⟩ := field
    rw [List.flatMap_cons, ← ih]
    cases value with
    | array items => rw [writeFields, writeItems_eq, Json.itemsOf]
    | null | bool | number | text | object => simp only [writeFields, Json.itemsOf, List.flatMap_singleton]

theorem written_elementMarkup (key : String) (value : Json) :
    (elementMarkup key value).flatMap written = writeElement key value := by
  induction value using Json.inner generalizing key with
  | null => simp [elementMarkup, writeElement, written, tagText, spelled]
  | bool | number | text =>
    simp [elementMarkup, writeElement, written, tagText, spelled, wrapped, openingTag, closingTag, writeText]
  | array items ih =>
    have inside : (items.flatMap (elementMarkup itemName)).flatMap written = items.flatMap (writeElement itemName) := by
      rw [List.flatMap_assoc]
      exact List.flatMap_congr fun item member => ih item member itemName
    simp [elementMarkup, writeElement, written, tagText, spelled, wrapped, openingTag, closingTag, itemsMarkup_eq,
      writeItems_eq, inside]
  | object fields ih =>
    have inside : (fieldsMarkup fields).flatMap written = writeFields fields := by
      rw [fieldsMarkup_eq, writeFields_eq, List.flatMap_assoc]
      apply List.flatMap_congr
      intro field member
      rw [fieldMarkup]
      split
      · rfl
      · split
        · simp [written, writeText]
        · rw [List.flatMap_assoc]
          exact List.flatMap_congr fun item inner => ih field member item inner field.1
    simp [elementMarkup, writeElement, written, tagText, spelled, wrapped, openingTag, closingTag, writeAttributes_eq,
      inside]

theorem writeDocument_eq (value : Json) : writeDocument value = writeElement (rooted value).1 (rooted value).2 := by
  cases value with
  | object fields =>
    match fields with
    | [(key, inner)] =>
      simp only [writeDocument, rooted]
      split <;> rfl
    | [] | _ :: _ :: _ => rfl
  | null | bool | number | text | array => rfl

theorem written_documentMarkup (value : Json) : (documentMarkup value).flatMap written = writeDocument value := by
  rw [documentMarkup, written_elementMarkup, writeDocument_eq]

/-! ## What opens and closes -/

theorem isName_attributesOf (fields : List (String × Json)) : ∀ pair ∈ attributesOf fields, IsName pair.1.toList := by
  intro pair member
  obtain ⟨field, _, rfl⟩ := List.mem_map.mp member
  exact isName_spelled _

theorem fits_flatMap {α : Type} {markup : α → List Markup} {parts : List α}
    (each : ∀ part ∈ parts, ∀ inside rest, Fits inside rest → Fits inside (markup part ++ rest)) (inside : List String)
    (rest : List Markup) (fits : Fits inside rest) : Fits inside (parts.flatMap markup ++ rest) := by
  induction parts with
  | nil => exact fits
  | cons part parts ih =>
    rw [List.flatMap_cons, List.append_assoc]
    apply each part List.mem_cons_self
    exact ih fun other member => each other (List.mem_cons_of_mem part member)

/-- An element closes all that it opens. -/
theorem fits_elementMarkup (key : String) (value : Json) (inside : List String) (rest : List Markup)
    (fits : Fits inside rest) : Fits inside (elementMarkup key value ++ rest) := by
  have isName := isName_spelled key
  have unnamed : ∀ pair ∈ ([] : List (String × String)), IsName pair.1.toList := nofun
  induction value using Json.inner generalizing key inside rest with
  | null => exact ⟨isName, unnamed, fits⟩
  | bool | number | text => exact ⟨isName, unnamed, rfl, isName, fits⟩
  | array items ih =>
    simp only [elementMarkup, itemsMarkup_eq, List.cons_append, List.append_assoc]
    refine ⟨isName, unnamed, fits_flatMap (fun item member inside rest fits => ?_) _ _ ⟨rfl, isName, fits⟩⟩
    exact ih item member itemName inside rest fits (isName_spelled itemName)
  | object fields ih =>
    simp only [elementMarkup, fieldsMarkup_eq, List.cons_append, List.append_assoc]
    refine ⟨isName, isName_attributesOf fields, fits_flatMap (fun field member => ?_) _ _ ⟨rfl, isName, fits⟩⟩
    intro inside rest fits
    rw [fieldMarkup]
    split
    · exact fits
    · split
      · exact fits
      · refine fits_flatMap (fun item inner inside rest fits => ?_) inside rest fits
        exact ih field member item inner field.1 inside rest fits (isName_spelled field.1)

/-! ## What is read -/

theorem writeElement_head (key : String) (value : Json) : ∃ rest, writeElement key value = '<' :: rest := by
  cases value with
  | null | bool | number | text | array | object => exact ⟨_, rfl⟩

/-- Text in UTF-8 that begins with a bracket is read as it is. -/
theorem ofBytes?_toUTF8 {s : List Char} (opens : s.head? = some '<') :
    Markup.ofBytes? (String.ofList s).toUTF8 = Markup.read? none (s.length + 1) [] s := by
  have valid : String.fromUTF8? (String.ofList s).toUTF8 = some (String.ofList s) := dif_pos (String.isValidUTF8 _)
  have whole : Markup.withoutMark s = s := by
    cases s with
    | nil => rfl
    | cons c s =>
      cases opens
      rfl
  simp only [Markup.ofBytes?, valid, String.toList_ofList, whole]

/-- The declaration is passed over. -/
theorem read?_declaration (fuel : Nat) (s : List Char) :
    Markup.read? none (fuel + 1) [] (declaration ++ s) = Markup.read? none fuel [] s := by
  have passed : Markup.bracketed? none [] (declaration.tail ++ s) = some ([], [], s) := rfl
  have opens : declaration ++ s = escaped [] ++ '<' :: (declaration.tail ++ s) := rfl
  rw [opens, Markup.read?_tag, passed]
  simp [Markup.shownText, Markup.withoutEnd]

/-- What is written for a value reads as its markup shows, unless an attribute is twice in an element. -/
theorem ofBytes?_encode (declared : Bool) (value : Json) :
    Markup.ofBytes? (encode declared value).toUTF8 =
      if ∀ markup ∈ documentMarkup value, markup.IsDistinct then some (shown [] (documentMarkup value)) else none := by
  have fits : Fits [] (documentMarkup value) := by
    have closes := fits_elementMarkup (rooted value).1 (rooted value).2 [] [] trivial
    rwa [List.append_nil] at closes
  have reads : ∀ fuel, (writeDocument value).length < fuel → Markup.read? none fuel [] (writeDocument value) =
      if ∀ markup ∈ documentMarkup value, markup.IsDistinct then some (shown [] (documentMarkup value)) else none := by
    intro fuel enough
    rw [← written_documentMarkup] at enough ⊢
    exact Markup.read?_written fits [] enough
  obtain ⟨rest, head⟩ := writeElement_head (rooted value).1 (rooted value).2
  rw [← writeDocument_eq] at head
  rw [encode]
  cases declared with
  | true =>
    rw [if_pos rfl, ofBytes?_toUTF8 rfl, read?_declaration]
    apply reads
    rw [List.length_append, show declaration.length = 38 from rfl]
    omega
  | false =>
    rw [if_neg Bool.false_ne_true, List.nil_append, ofBytes?_toUTF8 (by rw [head]; rfl)]
    exact reads _ (Nat.lt_succ_self _)

end Junction.Xml

namespace Junction.Body

variable {body : Body} {tree : Json}

theorem decode_xml_iff (format : body.format = .xml) : body.decode = .ok tree ↔ Xml.decode body.bytes = .ok tree := by
  rw [decode, format, decodeAs]
  cases Xml.decode body.bytes with
  | ok value => simp
  | error cause => cases cause <;> simp

theorem reshape_xml (format : body.format = .xml) (decoded : body.decode = .ok tree) (change : Json → Json) :
    body.reshape change = .ok (body.withText (Xml.encode (Xml.isDeclared body.bytes) (change tree))) := by
  rw [reshape, decoded, format]
  simp [Except.map, encodeLike, format]

theorem modify_xml (format : body.format = .xml) (decoded : body.decode = .ok tree) {action : Action}
    (adds : action ∈ [Action.add, .append, .set]) {key argument : String} {changed : Json}
    (modified : Change.modify tree action key (Change.valueOf argument) = .ok changed) :
    body.modify action key argument = .ok (body.withText (Xml.encode (Xml.isDeclared body.bytes) changed)) := by
  have edited : body.modifyTree action key argument =
      .ok (body.withText (Xml.encode (Xml.isDeclared body.bytes) changed)) := by
    rw [modifyTree, decoded]
    simp only [Except.bind, modified, encodeLike, format]
  simp only [List.mem_cons, List.not_mem_nil, or_false] at adds
  rw [modify, format]
  rcases adds with rfl | rfl | rfl <;> exact edited

end Junction.Body
