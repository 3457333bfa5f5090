import Junction.Json.Path
import Junction.Proofs.Text.Pieces
import Junction.Proofs.Text.Trim

/-!
Paths in writing that are names between dots: they are cut at the dots and nowhere else (`ofText_of_isDotted`).
-/

namespace Junction.Json

namespace Path

variable {name s : List Char} {key : String}

/-- A path in writing of names between dots: none of them is empty, begins brackets or reads as a position. -/
structure IsDotted (key : String) : Prop where
  tight : Text.Tight key.toList
  rootless : key.toList.head? ≠ some '$'
  names : ∀ name ∈ Text.pieces '.' key.toList, name ≠ [] ∧ '[' ∉ name ∧ Text.word? name = none

theorem segments_dotted (plain : '[' ∉ s) (name : List Char) {first : List Char} {more : List (List Char)}
    (cut : Text.pieces '.' s = first :: more) :
    segments (.dotted name) s = ((name ++ first) :: more).flatMap dottedSegment := by
  induction s generalizing name first more with
  | nil =>
    cases cut
    simp [segments]
  | cons c s ih =>
    simp only [List.mem_cons, not_or] at plain
    obtain ⟨next, later, rest⟩ := List.exists_cons_of_ne_nil (Text.pieces_ne_nil '.' s)
    by_cases dot : c = '.'
    · have cut' : Text.pieces '.' (c :: s) = [] :: next :: later := by rw [Text.pieces, if_pos dot, rest]
      cases cut'.symm.trans cut
      rw [segments, if_pos dot, ih plain.2 [] rest, List.append_nil, List.nil_append]
      exact List.flatMap_cons.symm
    · cases (Text.pieces_cons_of_ne dot rest).symm.trans cut
      rw [segments, if_neg dot, if_neg (Ne.symm plain.1), ih plain.2 (name ++ [c]) rest, List.append_assoc,
        List.singleton_append]

theorem without_of_head? {c : Char} (start : List Char) (other : s.head? ≠ some c) : without (c :: start) s = s := by
  cases s with
  | nil => rfl
  | cons first s =>
    have differ : c ≠ first := fun same => other (by rw [List.head?_cons, same])
    rw [without, Text.after?, if_neg differ, Option.getD_none]

theorem bracket_not_mem (names : ∀ name ∈ Text.pieces '.' s, '[' ∉ name) : '[' ∉ s := by
  induction s with
  | nil => exact List.not_mem_nil
  | cons c s ih =>
    obtain ⟨first, more, rest⟩ := List.exists_cons_of_ne_nil (Text.pieces_ne_nil '.' s)
    rw [rest] at ih
    by_cases dot : c = '.'
    · rw [Text.pieces, if_pos dot, rest] at names
      simp only [List.mem_cons, not_or]
      exact ⟨by rw [dot]; decide, ih fun name member => names name (List.mem_cons_of_mem _ member)⟩
    · rw [Text.pieces_cons_of_ne dot rest] at names
      have head := names _ List.mem_cons_self
      simp only [List.mem_cons, not_or] at head ⊢
      refine ⟨head.1, ih fun name member => ?_⟩
      rcases List.mem_cons.mp member with rfl | later
      · exact head.2
      · exact names name (List.mem_cons_of_mem _ later)

/-- The names between the dots are the segments. -/
theorem ofText_of_isDotted (dotted : IsDotted key) : ofText key = (Text.split '.' key).map .key := by
  obtain ⟨first, more, cut⟩ := List.exists_cons_of_ne_nil (Text.pieces_ne_nil '.' key.toList)
  have filled : ∀ name ∈ Text.pieces '.' key.toList, dottedSegment name = [.key (String.ofList name)] := by
    intro name member
    rw [dottedSegment, if_neg (by rw [List.isEmpty_iff]; exact (dotted.names name member).1)]
  rw [ofText, Text.trimmed_eq_self dotted.tight, without_of_head? _ dotted.rootless, without_of_head? _ dotted.rootless,
    segments_dotted (bracket_not_mem fun name member => (dotted.names name member).2.1) [] cut, List.nil_append, ← cut,
    Text.split, List.map_map, List.map_eq_flatMap]
  exact List.flatMap_congr filled

end Path
end Junction.Json
