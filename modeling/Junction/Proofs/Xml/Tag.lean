import Junction.Proofs.Text.Pieces
import Junction.Proofs.Xml.Escape
import Junction.Proofs.Xml.Name
import Mathlib.Data.List.Nodup

/-!
Tags as they are written, and how they read: a tag ends where it is written to end, and has the name and the attributes
that are written in it (`tag?_tagText`). It has none if two of them have one name.
-/

namespace Junction.Xml.Markup

/-- An attribute in a tag, with the space before it. -/
def writtenAttribute (pair : String × String) : List Char :=
  ' ' :: (pair.1.toList ++ '=' :: '\x22' :: (escaped pair.2.toList ++ ['\x22']))

/-- What stands between the brackets of an opening tag. -/
def tagText (name : String) (attributes : List (String × String)) : List Char :=
  name.toList ++ attributes.flatMap writtenAttribute

variable {name : String} {attributes : List (String × String)} {s rest : List Char}

/-! ## Where a tag ends -/

/-- A text in front of the inner part of a tag. -/
def prepend (s : List Char) (tag : List Char × List Char) : List Char × List Char := (s ++ tag.1, tag.2)

theorem tagEnd?_plain (plain : ∀ c ∈ s, c ≠ '>' ∧ c ≠ '\'' ∧ c ≠ '\x22') (rest : List Char) :
    tagEnd? .outside (s ++ rest) = (tagEnd? .outside rest).map (prepend s) := by
  induction s with
  | nil => exact Option.map_id'.symm
  | cons c s ih =>
    obtain ⟨closes, quote, quotes⟩ := plain c List.mem_cons_self
    have later := ih fun other member => plain other (List.mem_cons_of_mem c member)
    simp only [List.cons_append, tagEnd?, closes, quote, quotes, or_self, if_false, later, Option.map_map]
    rfl

theorem tagEnd?_quoted (absent : '\x22' ∉ s) (rest : List Char) :
    tagEnd? (.quoted '\x22') (s ++ '\x22' :: rest) = (tagEnd? .outside rest).map (prepend (s ++ ['\x22'])) := by
  induction s with
  | nil => simp only [List.nil_append, tagEnd?, if_true]; rfl
  | cons c s ih =>
    have other : c ≠ '\x22' := fun same => absent (same ▸ List.mem_cons_self)
    have later := ih fun member => absent (List.mem_cons_of_mem c member)
    simp only [List.cons_append, tagEnd?, other, if_false, later, Option.map_map]
    rfl

theorem tagEnd?_name (isName : IsName s) (rest : List Char) :
    tagEnd? .outside (s ++ rest) = (tagEnd? .outside rest).map (prepend s) := by
  apply tagEnd?_plain
  intro c member
  have plain := isName.plain c member
  exact ⟨plain.closes, plain.quote, plain.quotes⟩

theorem tagEnd?_attribute {pair : String × String} (isName : IsName pair.1.toList) (rest : List Char) :
    tagEnd? .outside (writtenAttribute pair ++ rest) =
      (tagEnd? .outside rest).map (prepend (writtenAttribute pair)) := by
  have front : ∀ c ∈ ' ' :: (pair.1.toList ++ ['=']), c ≠ '>' ∧ c ≠ '\'' ∧ c ≠ '\x22' := by
    intro c member
    simp only [List.mem_cons, List.mem_append, List.not_mem_nil, or_false] at member
    rcases member with rfl | named | rfl
    · decide
    · have plain := isName.plain c named
      exact ⟨plain.closes, plain.quote, plain.quotes⟩
    · decide
  have split : writtenAttribute pair ++ rest =
      (' ' :: (pair.1.toList ++ ['='])) ++ '\x22' :: (escaped pair.2.toList ++ '\x22' :: rest) := by
    simp [writtenAttribute]
  have quoted : tagEnd? .outside ('\x22' :: (escaped pair.2.toList ++ '\x22' :: rest)) =
      (tagEnd? .outside rest).map (prepend ('\x22' :: (escaped pair.2.toList ++ ['\x22']))) := by
    have value := tagEnd?_quoted (not_mem_escaped (by decide) pair.2.toList) rest
    rw [tagEnd?, if_neg (by decide)]
    simp only [or_true, if_true, value, Option.map_map]
    rfl
  rw [split, tagEnd?_plain front, quoted, Option.map_map]
  congr 1
  funext tag
  simp [prepend, writtenAttribute]

theorem tagEnd?_tagText (isName : IsName name.toList) (named : ∀ pair ∈ attributes, IsName pair.1.toList)
    (rest : List Char) :
    tagEnd? .outside (tagText name attributes ++ rest) =
      (tagEnd? .outside rest).map (prepend (tagText name attributes)) := by
  have later : tagEnd? .outside (attributes.flatMap writtenAttribute ++ rest) =
      (tagEnd? .outside rest).map (prepend (attributes.flatMap writtenAttribute)) := by
    induction attributes with
    | nil => exact Option.map_id'.symm
    | cons pair attributes ih =>
      rw [List.flatMap_cons, List.append_assoc, tagEnd?_attribute (named pair List.mem_cons_self),
        ih fun other member => named other (List.mem_cons_of_mem pair member), Option.map_map]
      congr 1
      funext tag
      simp [prepend]
  rw [tagText, List.append_assoc, tagEnd?_name isName, later, Option.map_map]
  congr 1
  funext tag
  simp [prepend]

/-! ## What is in a tag -/

theorem takeWhile_name (isName : IsName s) (stops : ∀ c ∈ rest.head?, isSpace c = true) :
    (s ++ rest).takeWhile (fun c => !isSpace c) = s := by
  have whole : ∀ c ∈ s, (!isSpace c) = true := by
    intro c member
    simp [(isName.plain c member).space]
  exact Text.takeWhile_of_stops whole fun c first => by simp [stops c first]

theorem nameOf_tagText (isName : IsName name.toList) : nameOf (tagText name attributes) = name.toList := by
  apply takeWhile_name isName
  intro c member
  cases attributes with
  | nil => cases member
  | cons pair attributes =>
    cases member
    decide

/-- An attribute reads as its name and its value, unless its name has been seen before. -/
theorem attributes?_writtenAttribute {pair : String × String} (isName : IsName pair.1.toList) (fuel : Nat)
    (seen : List (List Char)) (rest : List Char) :
    attributes? none (fuel + 1) seen (writtenAttribute pair ++ rest) =
      if seen.contains pair.1.toList then none
      else (attributes? none fuel (pair.1.toList :: seen) rest).map (pair :: ·) := by
  obtain ⟨key, value⟩ := pair
  obtain ⟨first, more, split, _⟩ := isName.starts
  have plain := isName.plain
  dsimp only at split plain
  rw [split] at plain
  have start : (writtenAttribute (key, value) ++ rest).dropWhile isSpace =
      first :: (more ++ '=' :: '\x22' :: (escaped value.toList ++ '\x22' :: rest)) := by
    have space : isSpace ' ' = true := by decide
    have notSpace : isSpace first = false := (plain first List.mem_cons_self).space
    simp [writtenAttribute, split, space, notSpace]
  have named : (more ++ '=' :: '\x22' :: (escaped value.toList ++ '\x22' :: rest)).takeWhile
      (fun c => !(c == '=' || isSpace c)) = more := by
    refine Text.takeWhile_of_stops ?_ (by simp)
    intro c member
    have inName := plain c (List.mem_cons_of_mem first member)
    simp [inName.equals, inName.space]
  have valued : (escaped value.toList ++ '\x22' :: rest).takeWhile (· != '\x22') = escaped value.toList := by
    refine Text.takeWhile_of_stops ?_ (by simp)
    intro c member
    have other : c ≠ '\x22' := by
      rintro rfl
      exact not_mem_escaped (by decide) value.toList member
    simpa using other
  have equals : isSpace '=' = false := by decide
  have quote : isSpace '\x22' = false := by decide
  simp only [attributes?, start, named, List.drop_left, List.dropWhile_cons, equals, quote, Bool.false_eq_true, if_false,
    or_true, if_true, valued, ← split]
  simp [strict?, unescaped?_escaped, lossy]

theorem fresh_cons {name : List Char} {names seen : List (List Char)} :
    ((name :: names).Nodup ∧ ∀ other ∈ name :: names, other ∉ seen) ↔
      name ∉ seen ∧ names.Nodup ∧ ∀ other ∈ names, other ∉ name :: seen := by
  rw [List.nodup_cons, List.forall_mem_cons]
  simp only [List.mem_cons, not_or]
  constructor
  · rintro ⟨⟨once, distinct⟩, unseen, others⟩
    refine ⟨unseen, distinct, ?_⟩
    intro other member
    exact ⟨fun same => once (same ▸ member), others other member⟩
  · rintro ⟨unseen, distinct, others⟩
    refine ⟨⟨?_, distinct⟩, unseen, fun other member => (others other member).2⟩
    intro again
    exact (others name again).1 rfl

/-- Attributes read as they are written if each has a name that has not been seen before, and not at all if not. -/
theorem attributes?_written (named : ∀ pair ∈ attributes, IsName pair.1.toList) {fuel : Nat}
    (enough : attributes.length < fuel) (seen : List (List Char)) :
    attributes? none fuel seen (attributes.flatMap writtenAttribute) =
      if (attributes.map (·.1.toList)).Nodup ∧ ∀ name ∈ attributes.map (·.1.toList), name ∉ seen then some attributes
      else none := by
  induction attributes generalizing fuel seen with
  | nil =>
    obtain ⟨fuel, rfl⟩ : ∃ less, fuel = less + 1 := ⟨fuel - 1, by simp only [List.length_nil] at enough; omega⟩
    simp [attributes?]
  | cons pair attributes ih =>
    simp only [List.length_cons] at enough
    obtain ⟨fuel, rfl⟩ : ∃ less, fuel = less + 1 := ⟨fuel - 1, by omega⟩
    rw [List.flatMap_cons, attributes?_writtenAttribute (named pair List.mem_cons_self),
      ih (fun other member => named other (List.mem_cons_of_mem pair member)) (by omega)]
    simp only [List.map_cons, fresh_cons]
    by_cases known : pair.1.toList ∈ seen
    · simp [known]
    · simp only [List.contains_iff_mem, known, if_false, not_false_eq_true, true_and]
      split <;> rfl

theorem length_le_written (attributes : List (String × String)) :
    attributes.length ≤ (attributes.flatMap writtenAttribute).length := by
  induction attributes with
  | nil => exact Nat.le_refl _
  | cons pair attributes ih =>
    simp only [List.flatMap_cons, List.length_append, List.length_cons, writtenAttribute]
    omega

/-- A tag reads as the name and the attributes that are written in it, if no attribute is there twice. -/
theorem tag?_tagText (isName : IsName name.toList) (named : ∀ pair ∈ attributes, IsName pair.1.toList) :
    tag? none (tagText name attributes) =
      if (attributes.map (·.1)).Nodup then some (name, attributes) else none := by
  have first : nameOf (tagText name attributes) = name.toList := nameOf_tagText isName
  rw [nameOf] at first
  have enough : attributes.length < (tagText name attributes).length + 1 := by
    have longer := length_le_written attributes
    simp only [tagText, List.length_append]
    omega
  have others : (tagText name attributes).drop name.toList.length = attributes.flatMap writtenAttribute := by
    rw [tagText, List.drop_left]
  simp only [tag?, first, others]
  have names : (attributes.map (·.1.toList)).Nodup ↔ (attributes.map (·.1)).Nodup := by
    rw [← List.nodup_map_iff fun _ _ same => String.toList_injective same, List.map_map]
    rfl
  rw [attributes?_written named enough]
  by_cases distinct : (attributes.map (·.1)).Nodup
  · simp [names, distinct, lossy]
  · simp [names, distinct]

end Junction.Xml.Markup
