import Junction.Json.KeyCase
import Junction.Proofs.Text.Pieces

/-!
The words of a key. In lower case, joined by a separator, the words of an ASCII key are found again (`words_joined`), so
spelling it in any way after that gives the same as before (`convert_canonical`).
-/

namespace Junction.Json
namespace KeyCase
open Text (joined pieces isUppercase)

variable {before c separator : Char} {key piece word : List Char} {found : List (List Char)}

/-! ## Characters of words -/

/-- A character in lower case that neither separates words nor begins one. -/
structure IsPlain (c : Char) : Prop where
  inside : isSeparator c = false
  small : isUppercase c = false
  fixed : Text.lower c = [c]

theorem lower_ascii (ascii : c.toNat < 128) : Text.lower c = [c.toLower] := if_pos ascii

theorem isPlain_toLower (ascii : c.toNat < 128) (inside : isSeparator c = false) : IsPlain c.toLower := by
  have all : ∀ code < 128, isSeparator (Char.ofNat code) = false →
      isSeparator (Char.ofNat code).toLower = false ∧ isUppercase (Char.ofNat code).toLower = false ∧
        Text.lower (Char.ofNat code).toLower = [(Char.ofNat code).toLower] := by decide +kernel
  have here := all c.toNat ascii
  rw [Char.ofNat_toNat] at here
  obtain ⟨apart, small, fixed⟩ := here inside
  exact ⟨apart, small, fixed⟩

/-! ## The words of a key -/

theorem flatten_finished (word : List Char) : (finished word).flatten = word := by
  cases word <;> simp [finished]

/-- Words hold the characters of the key in lower case, without separators. -/
theorem flatten_wordsFrom (before : Char) (word key : List Char) :
    (wordsFrom before word key).flatten = word ++ (key.filter fun c => !isSeparator c).flatMap Text.lower := by
  induction key generalizing before word with
  | nil => rw [wordsFrom, flatten_finished, List.filter_nil, List.flatMap_nil, List.append_nil]
  | cons c key ih =>
    rw [wordsFrom]
    split
    · rename_i separates
      rw [List.flatten_append, flatten_finished, ih, List.nil_append, List.filter_cons_of_neg (by simp [separates])]
    · rename_i inside
      rw [List.filter_cons_of_pos (by simp [inside]), List.flatMap_cons]
      split
      · rw [List.flatten_cons, ih]
      · rw [ih, List.append_assoc]

theorem ne_nil_of_mem_finished (member : piece ∈ finished word) : piece ≠ [] := by
  cases word with
  | nil => cases member
  | cons c word =>
    rw [List.mem_singleton.mp member]
    exact List.cons_ne_nil c word

theorem ne_nil_of_mem_wordsFrom (member : piece ∈ wordsFrom before word key) : piece ≠ [] := by
  induction key generalizing before word with
  | nil => exact ne_nil_of_mem_finished member
  | cons c key ih =>
    rw [wordsFrom] at member
    split at member
    · rcases List.mem_append.mp member with last | later
      · exact ne_nil_of_mem_finished last
      · exact ih later
    · split at member
      · rename_i begins
        rcases List.mem_cons.mp member with rfl | later
        · rintro rfl
          simp at begins
        · exact ih later
      · exact ih member

/-! ## Words that are found again -/

/-- Words that are not empty, of plain characters. -/
def AreWords (found : List (List Char)) : Prop := ∀ word ∈ found, word ≠ [] ∧ ∀ c ∈ word, IsPlain c

theorem areWords_words (ascii : ∀ c ∈ key, c.toNat < 128) : AreWords (words key) := by
  intro word member
  refine ⟨ne_nil_of_mem_wordsFrom member, fun c inside => ?_⟩
  have within : c ∈ (words key).flatten := List.mem_flatten.mpr ⟨word, member, inside⟩
  rw [words, flatten_wordsFrom, List.nil_append] at within
  obtain ⟨source, kept, low⟩ := List.mem_flatMap.mp within
  obtain ⟨listed, apart⟩ := List.mem_filter.mp kept
  rw [lower_ascii (ascii source listed), List.mem_singleton] at low
  rw [low]
  exact isPlain_toLower (ascii source listed) (by simpa using apart)

/-- Plain characters go on with the word that has begun. -/
theorem wordsFrom_append (plain : ∀ c ∈ piece, IsPlain c) (before : Char) (word rest : List Char) :
    ∃ last, wordsFrom before word (piece ++ rest) = wordsFrom last (word ++ piece) rest := by
  induction piece generalizing before word with
  | nil => exact ⟨before, by rw [List.nil_append, List.append_nil]⟩
  | cons c piece ih =>
    obtain ⟨inside, small, fixed⟩ := plain c List.mem_cons_self
    obtain ⟨last, same⟩ := ih (fun d member => plain d (List.mem_cons_of_mem _ member)) c (word ++ [c])
    refine ⟨last, ?_⟩
    -- whatever stands before and after it, a character that is not in upper case begins no word
    have goesOn : beginsWord before c (piece ++ rest).head? = false := by rw [beginsWord, small, Bool.false_and]
    rw [List.cons_append, wordsFrom, inside, goesOn, Bool.and_false, if_neg Bool.false_ne_true, if_neg Bool.false_ne_true,
      fixed, same, List.append_assoc, List.singleton_append]

/-- Words are cut at the separators that join them, and nowhere else. -/
theorem wordsFrom_joined (separates : isSeparator separator = true) (plain : AreWords found) (before : Char) :
    wordsFrom before [] (joined separator found) = found := by
  induction found generalizing before with
  | nil => rfl
  | cons word found ih =>
    obtain ⟨filled, inside⟩ := plain word List.mem_cons_self
    have whole : finished word = [word] := by rw [finished, if_neg (by simpa using filled)]
    cases found with
    | nil =>
      obtain ⟨last, same⟩ := wordsFrom_append inside before [] []
      rw [List.append_nil] at same
      rw [joined, same, wordsFrom, List.nil_append, whole]
    | cons next found =>
      obtain ⟨last, same⟩ := wordsFrom_append inside before [] (separator :: joined separator (next :: found))
      have later := ih (fun other member => plain other (List.mem_cons_of_mem _ member)) separator
      rw [Text.joined_cons_cons, same, wordsFrom, if_pos separates, List.nil_append, whole, later, List.singleton_append]

theorem words_joined (separates : isSeparator separator = true) (plain : AreWords found) :
    words (joined separator found) = found := wordsFrom_joined separates plain ' '

/-! ## Spelling a key again -/

theorem convert_of_words_ne_nil {key : String} (filled : words key.toList ≠ []) (keyCase : KeyCase) :
    keyCase.convert key = String.ofList (keyCase.spell (words key.toList)) :=
  if_neg (by simpa using filled)

theorem convert_of_words_eq_nil {key : String} (blank : words key.toList = []) (keyCase : KeyCase) :
    keyCase.convert key = key :=
  if_pos (by simp [blank])

section Joining

variable {joining : KeyCase} {name : String}

/-- The words of a key are those of its spelling, when that joins them. -/
theorem words_convert (joins : ∀ found, joining.spell found = joined separator found)
    (separates : isSeparator separator = true) (plain : AreWords (words name.toList)) :
    words (joining.convert name).toList = words name.toList := by
  by_cases blank : words name.toList = []
  · rw [convert_of_words_eq_nil blank]
  · rw [convert_of_words_ne_nil blank, String.toList_ofList, joins, words_joined separates plain]

theorem convert_convert (joins : ∀ found, joining.spell found = joined separator found)
    (separates : isSeparator separator = true) (plain : AreWords (words name.toList)) (keyCase : KeyCase) :
    keyCase.convert (joining.convert name) = keyCase.convert name := by
  have same := words_convert joins separates plain
  by_cases blank : words name.toList = []
  · rw [convert_of_words_eq_nil blank joining]
  · rw [convert_of_words_ne_nil (by rwa [same]), same, convert_of_words_ne_nil blank]

end Joining

/-- No character is in upper case, only underscores separate, and none of them stands at an end or beside another: the
pieces between them are not empty. -/
structure IsSnake (spelled : List Char) : Prop where
  small : ∀ c ∈ spelled, isUppercase c = false
  underscores : ∀ c ∈ spelled, isSeparator c = true → c = '_'
  single : ∀ piece ∈ pieces '_' spelled, piece ≠ []

theorem isSnake_joined (plain : AreWords found) (filled : found ≠ []) : IsSnake (joined '_' found) where
  small c member := by
    rcases Text.eq_or_mem_of_mem_joined member with rfl | ⟨word, listed, inside⟩
    · decide
    · exact ((plain word listed).2 c inside).small
  underscores c member separates := by
    rcases Text.eq_or_mem_of_mem_joined member with same | ⟨word, listed, inside⟩
    · exact same
    · rw [((plain word listed).2 c inside).inside] at separates
      cases separates
  single piece member := by
    rw [Text.pieces_joined filled] at member
    obtain ⟨word, listed, cut⟩ := List.mem_flatMap.mp member
    have apart : '_' ∉ word := fun inside => absurd ((plain word listed).2 '_' inside).inside (by decide)
    rw [Text.pieces_of_not_mem apart, List.mem_singleton] at cut
    rw [cut]
    exact (plain word listed).1

theorem filter_joined_words (ascii : ∀ c ∈ key, c.toNat < 128) :
    (joined '_' (words key)).filter (fun c => !isSeparator c) = (key.filter fun c => !isSeparator c).map Char.toLower := by
  have plain : ∀ c ∈ (words key).flatten, (!isSeparator c) = true := by
    intro c member
    obtain ⟨word, listed, inside⟩ := List.mem_flatten.mp member
    rw [((areWords_words ascii word listed).2 c inside).inside, Bool.not_false]
  rw [Text.filter_joined (by decide), List.filter_eq_self.mpr plain, words, flatten_wordsFrom, List.nil_append,
    List.map_eq_flatMap]
  exact List.flatMap_congr fun c member => lower_ascii (ascii c (List.mem_filter.mp member).1)

/-- Of an ASCII key, the words joined by underscores or dashes are spelled in every way as the key itself, so either form is
its own, and is found again behind the other. With underscores, a key of any words is in lower case, has single underscores
inside and no other separator, and otherwise the characters of the key. -/
theorem convert_canonical (key : String) (ascii : ∀ c ∈ key.toList, c.toNat < 128) :
    (∀ keyCase : KeyCase, keyCase.convert (snake.convert key) = keyCase.convert key ∧
      keyCase.convert (kebab.convert key) = keyCase.convert key) ∧
    (snake.convert (snake.convert key) = snake.convert key ∧ kebab.convert (kebab.convert key) = kebab.convert key ∧
      snake.convert (kebab.convert (snake.convert key)) = snake.convert key ∧
      kebab.convert (snake.convert (kebab.convert key)) = kebab.convert key) ∧
    (words key.toList ≠ [] → IsSnake (snake.convert key).toList ∧
      (snake.convert key).toList.filter (fun c => !isSeparator c) =
        (key.toList.filter fun c => !isSeparator c).map Char.toLower) := by
  have plain := areWords_words ascii
  have bySnake : ∀ {name : String}, AreWords (words name.toList) → ∀ keyCase : KeyCase,
      keyCase.convert (snake.convert name) = keyCase.convert name :=
    convert_convert (fun _ => rfl) (by decide)
  have byKebab : ∀ {name : String}, AreWords (words name.toList) → ∀ keyCase : KeyCase,
      keyCase.convert (kebab.convert name) = keyCase.convert name :=
    convert_convert (fun _ => rfl) (by decide)
  have plainSnake : AreWords (words (snake.convert key).toList) := by
    rwa [words_convert (fun _ => rfl) (by decide) plain]
  have plainKebab : AreWords (words (kebab.convert key).toList) := by
    rwa [words_convert (fun _ => rfl) (by decide) plain]
  refine ⟨fun keyCase => ⟨bySnake plain keyCase, byKebab plain keyCase⟩,
    ⟨bySnake plain snake, byKebab plain kebab, ?_, ?_⟩, fun filled => ?_⟩
  · rw [byKebab plainSnake, bySnake plain]
  · rw [bySnake plainKebab, byKebab plain]
  · rw [convert_of_words_ne_nil filled, String.toList_ofList]
    exact ⟨isSnake_joined plain filled, filter_joined_words ascii⟩

/-- A key with an acronym, digits and three kinds of separators. -/
def mixedKey : String := "__HTTPStatusCode-v2.userID "

theorem convert_canonical_mixedKey :
    (∀ c ∈ mixedKey.toList, c.toNat < 128) ∧ words mixedKey.toList ≠ [] ∧
      snake.convert mixedKey = "http_status_code_v2_user_id" ∧ kebab.convert mixedKey = "http-status-code-v2-user-id" ∧
      lowerCamel.convert (snake.convert mixedKey) = lowerCamel.convert mixedKey ∧
      lowerCamel.convert (kebab.convert mixedKey) = lowerCamel.convert mixedKey ∧
      kebab.convert (snake.convert (kebab.convert mixedKey)) = kebab.convert mixedKey ∧
      IsSnake (snake.convert mixedKey).toList := by
  have all : (mixedKey.toList.all fun c => decide (c.toNat < 128)) = true := by decide +kernel
  have ascii : ∀ c ∈ mixedKey.toList, c.toNat < 128 := by simpa only [List.all_eq_true, decide_eq_true_eq] using all
  have filled : words mixedKey.toList ≠ [] := by decide +kernel
  have canonical := convert_canonical mixedKey ascii
  exact ⟨ascii, filled, by decide +kernel, by decide +kernel, (canonical.1 lowerCamel).1, (canonical.1 lowerCamel).2,
    canonical.2.1.2.2.2, (canonical.2.2 filled).1⟩

end KeyCase
end Junction.Json
