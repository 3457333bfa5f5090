import Junction.Text.Cut
import Mathlib.Data.List.Basic

/-!
Texts that are cut: where characters of one kind end, and at a separator. The pieces between separators hold none, and
texts that are joined are cut where they were.
-/

namespace Junction.Text

variable {separator : Char} {s t piece : List Char}

/-! ## Where characters of one kind end -/

theorem takeWhile_of_stops {p : Char → Bool} (inside : ∀ c ∈ s, p c = true) (stops : ∀ c ∈ t.head?, p c = false) :
    (s ++ t).takeWhile p = s := by
  rw [List.takeWhile_append_of_pos inside]
  cases t with
  | nil => rw [List.takeWhile_nil, List.append_nil]
  | cons c t => rw [List.takeWhile_cons_of_neg (by rw [stops c rfl]; exact Bool.false_ne_true), List.append_nil]

theorem dropWhile_of_stops {p : Char → Bool} (inside : ∀ c ∈ s, p c = true) (stops : ∀ c ∈ t.head?, p c = false) :
    (s ++ t).dropWhile p = t := by
  rw [List.dropWhile_append_of_pos inside]
  cases t with
  | nil => rfl
  | cons c t => rw [List.dropWhile_cons_of_neg (by rw [stops c rfl]; exact Bool.false_ne_true)]

/-! ## Between separators -/

theorem pieces_ne_nil (separator : Char) (s : List Char) : pieces separator s ≠ [] := by
  cases s with
  | nil => simp [pieces]
  | cons c rest =>
    simp only [pieces]
    split
    · simp
    · split <;> simp

theorem pieces_cons_of_ne {c : Char} (other : c ≠ separator) {first : List Char} {more : List (List Char)}
    (rest : pieces separator s = first :: more) : pieces separator (c :: s) = (c :: first) :: more := by
  simp only [pieces, if_neg other, rest]

theorem not_mem_of_mem_pieces (member : piece ∈ pieces separator s) : separator ∉ piece := by
  induction s generalizing piece with
  | nil =>
    obtain rfl : piece = [] := by simpa [pieces] using member
    simp
  | cons c s ih =>
    obtain ⟨first, more, rest⟩ := List.exists_cons_of_ne_nil (pieces_ne_nil separator s)
    by_cases here : c = separator
    · rcases List.mem_cons.mp (by simpa [pieces, here] using member) with rfl | later
      · simp
      · exact ih later
    · rw [pieces_cons_of_ne here rest] at member
      rw [rest] at ih
      rcases List.mem_cons.mp member with rfl | later
      · have apart : separator ∉ first := ih List.mem_cons_self
        simp [apart, Ne.symm here]
      · exact ih (List.mem_cons_of_mem _ later)

theorem pieces_of_not_mem (apart : separator ∉ s) : pieces separator s = [s] := by
  induction s with
  | nil => rfl
  | cons c s ih =>
    simp only [List.mem_cons, not_or] at apart
    exact pieces_cons_of_ne (Ne.symm apart.1) (ih apart.2)

theorem pieces_append (s t : List Char) :
    pieces separator (s ++ separator :: t) = pieces separator s ++ pieces separator t := by
  induction s with
  | nil => simp [pieces]
  | cons c s ih =>
    by_cases here : c = separator
    · simp [pieces, here, ih]
    · obtain ⟨first, more, rest⟩ := List.exists_cons_of_ne_nil (pieces_ne_nil separator s)
      rw [rest] at ih
      rw [List.cons_append, pieces_cons_of_ne here ih, pieces_cons_of_ne here rest]
      rfl

theorem joined_cons_cons (separator : Char) (text next : List Char) (texts : List (List Char)) :
    joined separator (text :: next :: texts) = text ++ separator :: joined separator (next :: texts) := rfl

/-- Joining puts separators between texts, and adds none within them. -/
theorem pieces_joined {texts : List (List Char)} (some? : texts ≠ []) :
    pieces separator (joined separator texts) = texts.flatMap (pieces separator) := by
  induction texts with
  | nil => exact absurd rfl some?
  | cons text texts ih =>
    cases texts with
    | nil => simp [joined]
    | cons next texts =>
      rw [joined_cons_cons, pieces_append, ih (by simp)]
      rfl

/-- Joining adds nothing but separators. -/
theorem filter_joined {p : Char → Bool} (out : p separator = false) (texts : List (List Char)) :
    (joined separator texts).filter p = texts.flatten.filter p := by
  induction texts with
  | nil => rfl
  | cons text texts ih =>
    cases texts with
    | nil => rw [joined, List.flatten_singleton]
    | cons next texts =>
      rw [joined_cons_cons, List.filter_append, List.filter_cons_of_neg (by simp [out]), ih, ← List.filter_append,
        ← List.flatten_cons]

theorem eq_or_mem_of_mem_joined {c : Char} {texts : List (List Char)} (member : c ∈ joined separator texts) :
    c = separator ∨ ∃ text ∈ texts, c ∈ text := by
  by_cases same : c = separator
  · exact .inl same
  · have kept : c ∈ (joined separator texts).filter fun d => d != separator := by simp [member, same]
    rw [filter_joined (by simp)] at kept
    exact .inr (List.mem_flatten.mp (List.mem_filter.mp kept).1)

end Junction.Text
