import Junction.Config.Source
import Junction.Json.Printer
import Junction.Proofs.Json.Digits

/-!
JSON text reads as what was written: every value without doubles, however deep (`ofText?_write`).
-/

namespace Junction.Json
open Decimal (Follows)

/-! ## Texts -/

namespace Written

/-- The piece that a character is written as: control characters without a letter by their number. -/
def pieceOf (c : Char) : Piece :=
  if c.toNat < 0x20 ∧ c ≠ '\x08' ∧ c ≠ '\t' ∧ c ≠ '\n' ∧ c ≠ '\x0c' ∧ c ≠ '\r' then .unit c.toNat else .char c

theorem pieces?_hexDigits : ∀ code < 0x20, ∀ rest : List Char,
    pieces? ('\\' :: 'u' :: (Text.hexDigits 4 code ++ rest)) =
      (pieces? rest).map fun (found, rest) => (.unit code :: found, rest) := by
  intro code small rest
  have digits : ∀ code < 0x20, ∃ a b c d, Text.hexDigits 4 code = [a, b, c, d] ∧
      Text.valueInBase? 16 [a, b, c, d] = some code := by
    intro code small
    refine ⟨_, _, _, _, rfl, ?_⟩
    revert code
    decide
  obtain ⟨a, b, c, d, same, value⟩ := digits code small
  simp [same, pieces?, value]

theorem pieces?_letter {letter c : Char} (letters : escaped? letter = some c) (other : letter ≠ 'u')
    (rest : List Char) :
    pieces? ('\\' :: letter :: rest) = (pieces? rest).map fun (found, rest) => (.char c :: found, rest) := by
  simp [pieces?, letters, other]

theorem pieces?_plain {c : Char} (large : ¬ c.toNat < 0x20) (quote : c ≠ '\x22') (backslash : c ≠ '\\')
    (rest : List Char) :
    pieces? (c :: rest) = (pieces? rest).map fun (found, rest) => (.char c :: found, rest) := by
  simp [pieces?, large, backslash]

/-- An escaped character is one piece. -/
theorem pieces?_escape (c : Char) (rest : List Char) :
    pieces? (escape c ++ rest) = (pieces? rest).map fun (found, rest) => (pieceOf c :: found, rest) := by
  by_cases quote : c = '\x22'
  · subst quote
    exact pieces?_letter (by decide) (by decide) rest
  by_cases backslash : c = '\\'
  · subst backslash
    exact pieces?_letter (by decide) (by decide) rest
  by_cases backspace : c = '\x08'
  · subst backspace
    exact pieces?_letter (by decide) (by decide) rest
  by_cases tab : c = '\t'
  · subst tab
    exact pieces?_letter (by decide) (by decide) rest
  by_cases newline : c = '\n'
  · subst newline
    exact pieces?_letter (by decide) (by decide) rest
  by_cases feed : c = '\x0c'
  · subst feed
    exact pieces?_letter (by decide) (by decide) rest
  by_cases turn : c = '\r'
  · subst turn
    exact pieces?_letter (by decide) (by decide) rest
  by_cases control : c.toNat < 0x20
  · have written : escape c = '\\' :: 'u' :: Text.hexDigits 4 c.toNat := by
      simp [escape, quote, backslash, backspace, tab, newline, feed, turn, control]
    have piece : pieceOf c = .unit c.toNat := by simp [pieceOf, backspace, tab, newline, feed, turn, control]
    rw [written, piece]
    exact pieces?_hexDigits c.toNat control rest
  · have written : escape c = [c] := by
      simp [escape, quote, backslash, backspace, tab, newline, feed, turn, control]
    have piece : pieceOf c = .char c := by simp [pieceOf, control]
    rw [written, piece]
    exact pieces?_plain control quote backslash rest

theorem pieces?_flatMap_escape (s rest : List Char) :
    pieces? (s.flatMap escape ++ '\x22' :: rest) = some (s.map pieceOf, rest) := by
  induction s with
  | nil => simp [pieces?]
  | cons c s ih => simp [pieces?_escape, ih]

theorem scalar?_toNat (c : Char) : Text.scalar? c.toNat = some c := by
  have valid : c.toNat.isValidChar := c.valid
  have same : Char.ofNat c.toNat = c := Char.ofNat_toNat c
  rw [Char.ofNat, dif_pos valid] at same
  rw [Text.scalar?, dif_pos valid, same]

/-- A code point below the surrogates stands for itself, whatever follows it. -/
theorem characters?_unit {code : Nat} (small : code < 0xD800) (rest : List Piece) :
    characters? (.unit code :: rest) = (Text.scalar? code).bind fun c => (characters? rest).map (c :: ·) := by
  have notHigh : ¬ 0xD800 ≤ code := by omega
  cases rest with
  | nil => rfl
  | cons next rest =>
    cases next with
    | char c => rfl
    | unit low => simp [characters?, notHigh]

theorem pieceOf_cases (c : Char) : (pieceOf c = .unit c.toNat ∧ c.toNat < 0x20) ∨ pieceOf c = .char c := by
  unfold pieceOf
  split
  · rename_i control
    exact .inl ⟨rfl, control.1⟩
  · exact .inr rfl

theorem characters?_pieceOf (s : List Char) : characters? (s.map pieceOf) = some s := by
  induction s with
  | nil => rfl
  | cons c s ih =>
    rw [List.map_cons]
    rcases pieceOf_cases c with ⟨piece, control⟩ | piece
    · have small : c.toNat < 0xD800 := by omega
      rw [piece, characters?_unit small, scalar?_toNat, ih]
      rfl
    · rw [piece, characters?, ih]
      rfl

/-- A quoted text reads as the text. -/
theorem text?_quoted (s : String) (rest : List Char) :
    text? (s.toList.flatMap escape ++ '\x22' :: rest) = some (some s, rest) := by
  simp [text?, pieces?_flatMap_escape, characters?_pieceOf]

/-! ## Values -/

mutual

/-- All numbers of a value are integers of a 64-bit word. -/
def OnlyWords : Json → Prop
  | .number value => value.IsWord
  | .array items => OnlyWordItems items
  | .object fields => OnlyWordFields fields
  | _ => True

/-- All numbers of items are integers of a 64-bit word. -/
def OnlyWordItems : List Json → Prop
  | [] => True
  | item :: rest => OnlyWords item ∧ OnlyWordItems rest

/-- All numbers of fields are integers of a 64-bit word. -/
def OnlyWordFields : List (String × Json) → Prop
  | [] => True
  | (_, item) :: rest => OnlyWords item ∧ OnlyWordFields rest

end

theorem onlyWordItems_map {α : Type} {make : α → Json} {values : List α}
    (words : ∀ value ∈ values, OnlyWords (make value)) : OnlyWordItems (values.map make) := by
  induction values with
  | nil => trivial
  | cons value values ih =>
    refine ⟨words value List.mem_cons_self, ih ?_⟩
    intro other member
    exact words other (List.mem_cons_of_mem value member)

/-- Characters that a value starts with. -/
def starts (c : Char) : Bool :=
  c == 'n' || c == 't' || c == 'f' || c == '\x22' || c == '[' || c == '\x7b' || c == '-' || c.isDigit

theorem exists_write_int (value : Int) :
    ∃ c rest, write (.number (.int value)) = c :: rest ∧ (c = '-' ∨ c.isDigit = true) := by
  simp only [write, Number.render, Int.toString_eq_repr, Int.repr_eq_if]
  by_cases sign : 0 ≤ value
  · obtain ⟨first, more, same⟩ := List.exists_cons_of_ne_nil (Nat.toDigits_ne_nil (n := value.toNat) (b := 10))
    refine ⟨first, more, by simp [sign, same], .inr ?_⟩
    apply Nat.isDigit_of_mem_toDigits (by decide) (by decide : 10 ≤ 10)
    rw [same]
    exact List.mem_cons_self
  · exact ⟨'-', (-value).toNat.repr.toList, by simp [sign], .inl rfl⟩

theorem write_int_starts (value : Int) {c : Char} {rest : List Char} (start : write (.number (.int value)) = c :: rest) :
    c = '-' ∨ c.isDigit = true := by
  obtain ⟨first, more, same, sign⟩ := exists_write_int value
  obtain ⟨rfl, _⟩ := List.cons.inj (same.symm.trans start)
  exact sign

theorem write_starts (value : Json) (words : OnlyWords value) : ∃ c rest, value.write = c :: rest ∧ starts c = true := by
  cases value with
  | null => exact ⟨'n', _, rfl, rfl⟩
  | bool value =>
    cases value with
    | false => exact ⟨'f', _, rfl, rfl⟩
    | true => exact ⟨'t', _, rfl, rfl⟩
  | text value => exact ⟨'\x22', _, rfl, rfl⟩
  | array items => exact ⟨'[', _, by simp only [write]; rfl, rfl⟩
  | object fields => exact ⟨'\x7b', _, by simp only [write]; rfl, rfl⟩
  | number value =>
    cases value with
    | double value => cases words
    | int value =>
      obtain ⟨c, rest, same, sign⟩ := exists_write_int value
      refine ⟨c, rest, same, ?_⟩
      rcases sign with rfl | digit
      · rfl
      · simp [starts, digit]

theorem commaSeparated_starts {text : List Char} (start : ∃ c rest, text = c :: rest ∧ starts c = true)
    (more : List (List Char)) : ∃ c rest, commaSeparated (text :: more) = c :: rest ∧ starts c = true := by
  obtain ⟨c, rest, rfl, starts⟩ := start
  cases more with
  | nil => exact ⟨c, rest, rfl, starts⟩
  | cons next more => exact ⟨c, _, rfl, starts⟩

/-- What follows a value inside a text. -/
theorem follows_cons {c : Char} (mark : c = ',' ∨ c = ']' ∨ c = '\x7d') (rest : List Char) : Follows (c :: rest) := by
  intro d member
  have same : c = d := by simpa using member
  subst same
  rcases mark with rfl | rfl | rfl <;> decide

theorem tokens_of_starts {c : Char} (start : starts c = true) (rest : List Char) : tokens (c :: rest) = c :: rest := by
  have token : isSpace c = false := by
    cases space : isSpace c with
    | false => rfl
    | true =>
      simp only [isSpace, Bool.or_eq_true, beq_iff_eq] at space
      rcases space with ((rfl | rfl) | rfl) | rfl <;> cases start
  simp [tokens, token]

theorem value?_digits {c : Char} (sign : c = '-' ∨ c.isDigit = true) (fuel : Nat) (rest : List Char) :
    value? (fuel + 1) (c :: rest) =
      (Decimal.read? (c :: rest)).map fun (found, rest) => (.number found.value?, rest) := by
  have start : starts c = true := by
    rcases sign with rfl | digit
    · rfl
    · simp [starts, digit]
  rw [value?, tokens_of_starts start]
  split
  case h_7 => rfl
  all_goals
    rename_i same
    obtain ⟨rfl, _⟩ := List.cons.inj same
    exact absurd sign (by decide)

theorem value?_bracket {c : Char} (start : starts c = true) (fuel : Nat) (rest : List Char) :
    value? (fuel + 1) ('[' :: c :: rest) = (items? fuel (c :: rest)).map fun (found, rest) => (.array found, rest) := by
  have open? : tokens ('[' :: c :: rest) = '[' :: c :: rest := tokens_of_starts rfl _
  simp only [value?, open?, tokens_of_starts start]
  split
  · rename_i same
    obtain ⟨rfl, _⟩ := List.cons.inj same
    cases start
  · rfl

theorem value?_brace {c : Char} (start : starts c = true) (fuel : Nat) (rest : List Char) :
    value? (fuel + 1) ('\x7b' :: c :: rest) =
      (fields? fuel (c :: rest)).map fun (found, rest) => (.object found, rest) := by
  have open? : tokens ('\x7b' :: c :: rest) = '\x7b' :: c :: rest := tokens_of_starts rfl _
  simp only [value?, open?, tokens_of_starts start]
  split
  · rename_i same
    obtain ⟨rfl, _⟩ := List.cons.inj same
    cases start
  · rfl

theorem fields?_quoted (name : String) (fuel : Nat) (rest : List Char) :
    fields? (fuel + 1) (quoted name ++ ':' :: rest) =
      (value? fuel rest).bind fun (value, rest) =>
        match tokens rest with
        | ',' :: rest => (fields? fuel rest).map fun (more, rest) => ((some name, value) :: more, rest)
        | '\x7d' :: rest => some ([(some name, value)], rest)
        | _ => none := by
  have quote : tokens (quoted name ++ ':' :: rest) = '\x22' :: (name.toList.flatMap escape ++ '\x22' :: ':' :: rest) := by
    simp [quoted, tokens, isSpace]
  simp only [fields?, quote, text?_quoted, Option.bind_some]
  rfl

open Config in
mutual

/-- A value without doubles reads as it was written, whatever follows it. -/
theorem value?_write (value : Json) (words : OnlyWords value) (fuel : Nat) (enough : value.write.length ≤ fuel)
    {rest : List Char} (follows : Follows rest) :
    value? fuel (value.write ++ rest) = some (Setting.written value, rest) := by
  obtain ⟨first, more, start, sort⟩ := write_starts value words
  obtain ⟨fuel, rfl⟩ : ∃ less, fuel = less + 1 := by
    refine ⟨fuel - 1, ?_⟩
    rw [start, List.length_cons] at enough
    omega
  cases value with
  | null => simp [value?, tokens, isSpace, write, Setting.written]
  | bool value =>
    cases value with
    | false => simp [value?, tokens, isSpace, write, Setting.written]
    | true => simp [value?, tokens, isSpace, write, Setting.written]
  | text value => simp [value?, tokens, isSpace, write, quoted, text?_quoted, Setting.written]
  | number value =>
    cases value with
    | double value => cases words
    | int value =>
      have read := Decimal.read?_int value follows
      have digits : write (.number (.int value)) = (toString value).toList := by simp [write, Number.render]
      have sign := write_int_starts value start
      rw [← digits, start, List.cons_append] at read
      rw [start, List.cons_append, value?_digits sign, read]
      simp [Decimal.value?_ofInt words, Setting.written]
  | array items =>
    cases items with
    | nil => simp [value?, tokens, isSpace, write, writeItems, commaSeparated, Setting.written, Setting.writtenItems]
    | cons item items =>
      simp only [write, List.length_cons, List.length_append] at enough
      have read := items?_write item items words fuel (by omega) rest
      obtain ⟨c, tail, head, starts⟩ := commaSeparated_starts (write_starts item words.1) (writeItems items)
      simp only [write, writeItems, Setting.written] at read ⊢
      rw [head] at read ⊢
      simp only [List.cons_append, List.append_assoc, List.nil_append] at read ⊢
      rw [value?_bracket starts, read]
      rfl
  | object fields =>
    cases fields with
    | nil => simp [value?, tokens, isSpace, write, writeFields, commaSeparated, Setting.written, Setting.writtenFields]
    | cons field fields =>
      simp only [write, List.length_cons, List.length_append] at enough
      have read := fields?_write field fields words fuel (by omega) rest
      obtain ⟨name, item⟩ := field
      have quote : ∃ c tail, quoted name ++ ':' :: item.write = c :: tail ∧ starts c = true := ⟨'\x22', _, rfl, rfl⟩
      obtain ⟨c, tail, head, starts⟩ := commaSeparated_starts quote (writeFields fields)
      simp only [write, writeFields, Setting.written] at read ⊢
      rw [head] at read ⊢
      simp only [List.cons_append, List.append_assoc, List.nil_append] at read ⊢
      rw [value?_brace starts, read]
      rfl
termination_by fuel

theorem items?_write (item : Json) (items : List Json) (words : OnlyWordItems (item :: items)) (fuel : Nat)
    (enough : (commaSeparated (writeItems (item :: items))).length < fuel) (rest : List Char) :
    items? fuel (commaSeparated (writeItems (item :: items)) ++ ']' :: rest) =
      some (Setting.writtenItems (item :: items), rest) := by
  obtain ⟨fuel, rfl⟩ : ∃ less, fuel = less + 1 := ⟨fuel - 1, by omega⟩
  cases items with
  | nil =>
    simp only [writeItems, commaSeparated] at enough ⊢
    have here := value?_write item words.1 fuel (by omega) (follows_cons (.inr (.inl rfl)) rest)
    simp [items?, here, tokens, isSpace, Setting.writtenItems]
  | cons next items =>
    simp only [writeItems, commaSeparated, List.length_append, List.length_cons] at enough
    have later := items?_write next items words.2 fuel (by simp only [writeItems]; omega) rest
    have here := value?_write item words.1 fuel (by omega)
      (follows_cons (.inl rfl) (commaSeparated (writeItems (next :: items)) ++ ']' :: rest))
    simp only [writeItems, commaSeparated, List.append_assoc, List.cons_append] at here later ⊢
    simp [items?, here, later, tokens, isSpace, Setting.writtenItems]
termination_by fuel

theorem fields?_write (field : String × Json) (fields : List (String × Json)) (words : OnlyWordFields (field :: fields))
    (fuel : Nat) (enough : (commaSeparated (writeFields (field :: fields))).length < fuel) (rest : List Char) :
    fields? fuel (commaSeparated (writeFields (field :: fields)) ++ '\x7d' :: rest) =
      some (Setting.writtenFields (field :: fields), rest) := by
  obtain ⟨fuel, rfl⟩ : ∃ less, fuel = less + 1 := ⟨fuel - 1, by omega⟩
  obtain ⟨name, item⟩ := field
  have size : 2 ≤ (quoted name).length := by simp [quoted]
  cases fields with
  | nil =>
    simp only [writeFields, commaSeparated, List.length_append, List.length_cons] at enough ⊢
    have here := value?_write item words.1 fuel (by omega) (follows_cons (.inr (.inr rfl)) rest)
    simp only [List.append_assoc, List.cons_append]
    rw [fields?_quoted, here]
    simp [tokens, isSpace, Setting.writtenFields]
  | cons next fields =>
    simp only [writeFields, commaSeparated, List.length_append, List.length_cons] at enough
    have later := fields?_write next fields words.2 fuel (by simp only [writeFields]; omega) rest
    have here := value?_write item words.1 fuel (by omega)
      (follows_cons (.inl rfl) (commaSeparated (writeFields (next :: fields)) ++ '\x7d' :: rest))
    simp only [writeFields, commaSeparated, List.append_assoc, List.cons_append] at here later ⊢
    rw [fields?_quoted, here]
    simp [later, tokens, isSpace, Setting.writtenFields]
termination_by fuel

end

/-- The text of a value reads as the value that was written. -/
theorem ofText?_write (value : Json) (words : OnlyWords value) :
    ofText? value.write = some (Config.Setting.written value) := by
  have none : Follows [] := nofun
  have read := value?_write value words (2 * value.write.length + 2) (by omega) none
  rw [List.append_nil] at read
  simp [ofText?, read, tokens]

end Written

/-- A value that is not too deep, and has no name twice in an object, is read as it was written. -/
theorem read?_render {value : Json} (words : Written.OnlyWords value)
    (within : Written.toJson? (Config.Setting.written value) = some value) : read? value.render = some value := by
  rw [read?, render, String.toList_ofList, Written.ofText?_write value words, Option.bind_some, within]

end Junction.Json
