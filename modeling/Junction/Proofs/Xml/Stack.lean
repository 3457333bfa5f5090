import Junction.Proofs.Data.Keyed
import Junction.Proofs.Xml.Tree

/-!
Reading a document as a stack of elements, the innermost first and the document itself last (`valueOf_eq`), and what one
more child does to the fields of an element (`insertChild_cases`).
-/

namespace Junction.Xml

variable {top : OpenElement} {outer : List OpenElement} {name : String} {value : Json} {fields : List (String × Json)}

/-- The value of markup on a stack of elements: the innermost one, and those around it. -/
def valueOn (top : OpenElement) (outer : List OpenElement) : List Markup → Except ReadError Json
  | [] =>
    match outer with
    | [] => .ok top.value
    | _ :: _ => .error .unclosed
  | .opening name attributes :: rest => valueOn (.start name attributes) (top :: outer) rest
  | .closed name attributes :: rest =>
    valueOn (top.withChild name (OpenElement.start name attributes).value) outer rest
  | .text value :: rest => valueOn { top with text := top.text ++ value.toList } outer rest
  | .closing _ :: rest =>
    match outer with
    | [] => .error .unexpectedClosing
    | parent :: outer => valueOn (parent.withChild top.name top.value) outer rest

theorem valueOf_stack (markup : List Markup) (document : OpenElement) :
    valueOf document [] markup = valueOn document [] markup ∧
      ∀ element inner, valueOf document (element :: inner) markup = valueOn element (inner ++ [document]) markup := by
  induction markup generalizing document with
  | nil =>
    refine ⟨rfl, ?_⟩
    intro element inner
    cases inner <;> rfl
  | cons first markup ih =>
    refine ⟨?_, ?_⟩
    · cases first with
      | opening name attributes => exact (ih document).2 (.start name attributes) []
      | closed | text => exact (ih _).1
      | closing => rfl
    · intro element inner
      cases first with
      | opening name attributes => exact (ih document).2 (.start name attributes) (element :: inner)
      | closed | text => exact (ih document).2 _ inner
      | closing =>
        cases inner with
        | nil => exact (ih _).1
        | cons parent inner => exact (ih document).2 _ inner

theorem valueOf_eq (document : OpenElement) (markup : List Markup) :
    valueOf document [] markup = valueOn document [] markup := (valueOf_stack markup document).1

/-! ## Attributes -/

theorem dash_injective : Function.Injective fun name : String => "-" ++ name := by
  intro first second dashed
  rw [← drop_dash first, ← drop_dash second]
  exact congrArg (fun key : String => String.ofList (key.toList.drop 1)) dashed

theorem names_attributeFields (attributes : List (String × String)) :
    (attributeFields attributes).map (·.1) = (attributes.map (·.1)).map ("-" ++ ·) := by
  rw [attributeFields, List.map_map, List.map_map]
  rfl

/-- Attributes that are there once each are the first fields of an element. -/
theorem start_eq {attributes : List (String × String)} (once : (attributes.map (·.1)).Nodup) (name : String) :
    OpenElement.start name attributes = ⟨name, attributeFields attributes, []⟩ := by
  have distinct : ((attributeFields attributes).map (·.1)).Nodup := by
    rw [names_attributeFields]
    exact once.map dash_injective
  exact congrArg (OpenElement.mk name · []) (Keyed.ofList_of_nodup distinct)

/-! ## Children -/

theorem insertChild_first (absent : name ∉ fields.map (·.1)) (value : Json) :
    insertChild fields name value = fields ++ [(name, value)] := by
  rw [insertChild, Keyed.get?_eq_none_iff.mpr absent]
  exact Keyed.put_of_absent absent value

theorem insertChild_again {front : List (String × Json)} (absent : name ∉ front.map (·.1)) (old : Json)
    (back : List (String × Json)) (value : Json) :
    insertChild (front ++ (name, old) :: back) name value =
      front ++ (name, .array (old.itemsOf ++ [value])) :: back := by
  rw [insertChild, Keyed.get?_of_first absent]
  cases old with
  | null | bool | number | text | array | object => exact Keyed.put_of_first absent _ _ back

/-- A child is the first of its name, in a field of its own, or one more item under that name. -/
theorem insertChild_cases (fields : List (String × Json)) (name : String) (value : Json) :
    (name ∉ fields.map (·.1) ∧ insertChild fields name value = fields ++ [(name, value)]) ∨
      ∃ front old back, name ∉ front.map (·.1) ∧ fields = front ++ (name, old) :: back ∧
        insertChild fields name value = front ++ (name, .array (old.itemsOf ++ [value])) :: back := by
  cases found : Keyed.get? name fields with
  | none =>
    have absent := Keyed.get?_eq_none_iff.mp found
    exact .inl ⟨absent, insertChild_first absent value⟩
  | some old =>
    obtain ⟨front, back, absent, rfl⟩ := Keyed.exists_of_get? found
    exact .inr ⟨front, old, back, absent, rfl, insertChild_again absent old back value⟩

end Junction.Xml
