import Junction.Xml.Markup

/-!
Escaped text: it reads as the text it was made of (`unescaped?_escaped`), has no mark of a tag in it, and white space
around it is white space around the text.
-/

namespace Junction.Xml
open Markup (isSpace withoutEnd)

/-- The characters that are written as entities. -/
def entities : List Char := ['<', '>', '&', '\'', '\x22']

variable {c : Char} {s : List Char}

theorem escapedChar_of_other (other : c ∉ entities) : escapedChar c = [c] := by
  simp only [entities, List.mem_cons, List.not_mem_nil, or_false, not_or] at other
  obtain ⟨opens, closes, entity, quote, quotes⟩ := other
  simp [escapedChar, opens, closes, entity, quote, quotes]

theorem escapedChar_of_space (space : isSpace c = true) : escapedChar c = [c] := by
  apply escapedChar_of_other
  intro entity
  have notSpace : ∀ c ∈ entities, isSpace c = false := by
    simp only [entities, List.forall_mem_cons]
    exact ⟨rfl, rfl, rfl, rfl, rfl, nofun⟩
  rw [notSpace c entity] at space
  cases space

/-! ## Reading -/

theorem unescapedFrom_escapedChar (c : Char) (rest : List Char) :
    unescapedFrom none (escapedChar c ++ rest) = (unescapedFrom none rest).map (c :: ·) := by
  by_cases entity : c ∈ entities
  · simp only [entities, List.mem_cons, List.not_mem_nil, or_false] at entity
    rcases entity with rfl | rfl | rfl | rfl | rfl <;> rfl
  · have plain : c ≠ '&' := by
      rintro rfl
      exact entity (by decide)
    rw [escapedChar_of_other entity, List.singleton_append, unescapedFrom, if_neg plain]

theorem unescaped?_escaped (s : List Char) : unescaped? (escaped s) = some s := by
  rw [unescaped?]
  induction s with
  | nil => rfl
  | cons c s ih =>
    rw [escaped] at ih
    rw [escaped, List.flatMap_cons, unescapedFrom_escapedChar, ih, Option.map_some]

/-- A bracket or a quote is never in an escaped text. -/
theorem not_mem_escaped {mark : Char} (marks : mark ∈ ['<', '>', '\'', '\x22']) (s : List Char) : mark ∉ escaped s := by
  intro member
  obtain ⟨c, _, written⟩ := List.mem_flatMap.mp member
  simp only [List.mem_cons, List.not_mem_nil, or_false] at marks
  by_cases entity : c ∈ entities
  · simp only [entities, List.mem_cons, List.not_mem_nil, or_false] at entity
    rcases entity with rfl | rfl | rfl | rfl | rfl <;> rcases marks with rfl | rfl | rfl | rfl <;> revert written <;> decide
  · rw [escapedChar_of_other entity, List.mem_singleton] at written
    subst written
    apply entity
    rcases marks with rfl | rfl | rfl | rfl <;> decide

/-! ## White space -/

/-- What is written in place of each character keeps white space, and begins no other character with it. -/
theorem dropWhile_flatMap {f : Char → List Char} (kept : ∀ c, isSpace c = true → f c = [c])
    (stops : ∀ c, isSpace c = false → ∃ d more, f c = d :: more ∧ isSpace d = false) (s : List Char) :
    (s.flatMap f).dropWhile isSpace = (s.dropWhile isSpace).flatMap f := by
  induction s with
  | nil => rfl
  | cons c s ih =>
    cases space : isSpace c with
    | true => rw [List.flatMap_cons, kept c space, List.singleton_append, List.dropWhile_cons_of_pos space, ih,
        List.dropWhile_cons_of_pos space]
    | false =>
      have notSpace : ¬ isSpace c = true := by simp [space]
      obtain ⟨d, more, written, stop⟩ := stops c space
      have notSpace' : ¬ isSpace d = true := by simp [stop]
      rw [List.dropWhile_cons_of_neg notSpace, List.flatMap_cons, written, List.cons_append,
        List.dropWhile_cons_of_neg notSpace']

theorem dropWhile_escaped (s : List Char) : (escaped s).dropWhile isSpace = escaped (s.dropWhile isSpace) := by
  apply dropWhile_flatMap
  · intro c space
    exact escapedChar_of_space space
  · intro c space
    by_cases entity : c ∈ entities
    · simp only [entities, List.mem_cons, List.not_mem_nil, or_false] at entity
      rcases entity with rfl | rfl | rfl | rfl | rfl <;> exact ⟨_, _, rfl, by decide⟩
    · exact ⟨c, [], escapedChar_of_other entity, space⟩

theorem withoutEnd_escaped (s : List Char) : withoutEnd (escaped s) = escaped (withoutEnd s) := by
  have turned : (escaped s).reverse = s.reverse.flatMap fun c => (escapedChar c).reverse := List.reverse_flatMap
  have back : ∀ t : List Char, (t.flatMap fun c => (escapedChar c).reverse).reverse = escaped t.reverse := by
    intro t
    rw [List.reverse_flatMap, escaped]
    congr 1
    funext c
    exact List.reverse_reverse _
  rw [withoutEnd, turned, dropWhile_flatMap, back, withoutEnd]
  · intro c space
    rw [escapedChar_of_space space]
    rfl
  · intro c space
    by_cases entity : c ∈ entities
    · simp only [entities, List.mem_cons, List.not_mem_nil, or_false] at entity
      rcases entity with rfl | rfl | rfl | rfl | rfl <;> exact ⟨_, _, rfl, by decide⟩
    · exact ⟨c, [], by rw [escapedChar_of_other entity]; rfl, space⟩

theorem escaped_eq_nil : escaped s = [] ↔ s = [] := by
  constructor
  · intro none
    have same := unescaped?_escaped s
    rw [none] at same
    exact (Option.some.inj same).symm
  · rintro rfl
    rfl

end Junction.Xml
