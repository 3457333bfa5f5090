import Junction.Xml.Document

/-!
Names of elements and attributes. Of a key there is always a name (`isName_nameOf`), a name is its own name
(`nameOf_eq_self`), and no character of it means anything in a tag (`IsName.plain`).
-/

namespace Junction.Xml

/-- A text that begins with a letter or an underscore and has only characters of names. -/
structure IsName (s : List Char) : Prop where
  starts : ∃ first rest, s = first :: rest ∧ isNameStart first = true
  named : ∀ c ∈ s, isNameChar c = true

/-- A character that means nothing in a tag: no space, bracket, quote or equals sign. -/
structure IsPlain (c : Char) : Prop where
  space : Markup.isSpace c = false
  equals : c ≠ '='
  opens : c ≠ '<'
  closes : c ≠ '>'
  slash : c ≠ '/'
  bang : c ≠ '!'
  query : c ≠ '?'
  quote : c ≠ '\''
  quotes : c ≠ '\x22'

variable {c : Char} {s : List Char}

/-- No mark of a tag is a character of names. -/
theorem isPlain_of_named (named : isNameChar c = true) : IsPlain c := by
  have other : ∀ mark : Char, isNameChar mark = false → c ≠ mark := by
    rintro mark unnamed rfl
    rw [unnamed] at named
    cases named
  refine ⟨?_, other '=' (by decide), other '<' (by decide), other '>' (by decide), other '/' (by decide),
    other '!' (by decide), other '?' (by decide), other '\'' (by decide), other '\x22' (by decide)⟩
  simp [Markup.isSpace, other ' ' (by decide), other '\t' (by decide), other '\n' (by decide), other '\r' (by decide)]

theorem IsName.plain (name : IsName s) : ∀ c ∈ s, IsPlain c := fun c member => isPlain_of_named (name.named c member)

theorem isName_nameOf (key : String) : IsName (nameOf key) := by
  have named : ∀ c ∈ key.toList.map fun c => if isNameChar c then c else '_', isNameChar c = true := by
    intro c member
    obtain ⟨original, _, rfl⟩ := List.mem_map.mp member
    by_cases kept : isNameChar original = true
    · simp [kept]
    · simp only [kept, Bool.false_eq_true, if_false]
      decide
  simp only [nameOf]
  generalize (key.toList.map fun c => if isNameChar c then c else '_') = s at named
  cases s with
  | nil => exact ⟨⟨'_', [], rfl, by decide⟩, List.forall_mem_singleton.mpr (by decide)⟩
  | cons first rest =>
    by_cases start : isNameStart first = true
    · simp only [List.head?_cons, Option.map_some, Option.getD_some, start, if_true]
      exact ⟨⟨first, rest, rfl, start⟩, named⟩
    · simp only [List.head?_cons, Option.map_some, Option.getD_some, start, Bool.false_eq_true, if_false]
      refine ⟨⟨'_', first :: rest, rfl, by decide⟩, ?_⟩
      intro c member
      rcases List.mem_cons.mp member with rfl | later
      · decide
      · exact named c later

theorem nameOf_eq_self {key : String} (name : IsName key.toList) : nameOf key = key.toList := by
  have same : (key.toList.map fun c => if isNameChar c then c else '_') = key.toList := by
    conv => rhs; rw [← List.map_id key.toList]
    apply List.map_congr_left
    intro c member
    simp [name.named c member]
  obtain ⟨first, rest, split, start⟩ := name.starts
  simp only [nameOf, same]
  rw [split]
  simp [start]

/-- A key as the name that is written for it. -/
def spelled (key : String) : String := String.ofList (nameOf key)

/-- A key that is written as it is. -/
def IsFixed (key : String) : Prop := spelled key = key

instance (key : String) : Decidable (IsFixed key) := inferInstanceAs (Decidable (spelled key = key))

theorem isName_spelled (key : String) : IsName (spelled key).toList := by
  rw [spelled, String.toList_ofList]
  exact isName_nameOf key

theorem isFixed_iff {key : String} : IsFixed key ↔ IsName key.toList := by
  constructor
  · intro fixed
    rw [← show spelled key = key from fixed]
    exact isName_spelled key
  · intro name
    rw [IsFixed, spelled, nameOf_eq_self name, String.ofList_toList]

/-- A key that is neither that of an attribute nor that of a text. -/
def IsElement (key : String) : Prop := isAttribute key = false ∧ key ≠ textName

theorem isElement_of_fixed {key : String} (fixed : IsFixed key) : IsElement key := by
  obtain ⟨first, rest, split, start⟩ := (isFixed_iff.mp fixed).starts
  refine ⟨?_, ?_⟩
  · rw [isAttribute, split]
    rw [List.head?_cons, beq_eq_false_iff_ne]
    rintro same
    cases same
    exact absurd start (by decide)
  · rintro rfl
    rw [show textName.toList = '#' :: "text".toList from rfl] at split
    obtain ⟨rfl, _⟩ := List.cons.inj split
    exact absurd start (by decide)

theorem isAttribute_dash (name : String) : isAttribute ("-" ++ name) = true := by
  rw [isAttribute, String.toList_append]
  rfl

theorem drop_dash (name : String) : String.ofList (("-" ++ name).toList.drop 1) = name := by
  rw [String.toList_append, show "-".toList = ['-'] from rfl, List.singleton_append, List.drop_one, List.tail_cons,
    String.ofList_toList]

end Junction.Xml
