import Junction.Json.Basic
import Junction.Text.Cut

/-!
Spelling of keys: the words of a key joined in one of six ways, such as `userName` or `USER_NAME`.
-/

namespace Junction.Json

/-- A way to spell the words of a key. -/
inductive KeyCase where
  | camel
  | lowerCamel
  | snake
  | screamingSnake
  | kebab
  | screamingKebab
deriving DecidableEq, Repr, Inhabited

namespace KeyCase

/-- Every spelling with its name. -/
def names : List (String × KeyCase) :=
  [("CAMEL", camel), ("LOWER_CAMEL", lowerCamel), ("SNAKE", snake), ("SCREAMING_SNAKE", screamingSnake),
    ("KEBAB", kebab), ("SCREAMING_KEBAB", screamingKebab)]

/-- The spelling of a name. -/
def ofName? (name : String) : Option KeyCase := (names.find? fun entry => entry.1 == name).map (·.2)

/-- The name of a spelling. -/
def name : KeyCase → String
  | camel => "CAMEL"
  | lowerCamel => "LOWER_CAMEL"
  | snake => "SNAKE"
  | screamingSnake => "SCREAMING_SNAKE"
  | kebab => "KEBAB"
  | screamingKebab => "SCREAMING_KEBAB"

/-- A character that only separates words. -/
def isSeparator (c : Char) : Bool := c == '_' || c == '-' || c == ' ' || c == '.'

/-- An uppercase letter begins a word: after a lowercase letter or a digit, or as the last of several
uppercase letters before a lowercase one. -/
def beginsWord (before c : Char) (after : Option Char) : Bool :=
  Text.isUppercase c &&
    (Text.isLowercase before || before.isDigit ||
      (Text.isUppercase before && (after.map Text.isLowercase).getD false))

/-- A finished word, if it has any character. -/
def finished (word : List Char) : List (List Char) := if word.isEmpty then [] else [word]

/-- The words of the rest of a key in lower case; `before` is the character before it, `word` the word that
has begun. -/
def wordsFrom (before : Char) (word : List Char) : List Char → List (List Char)
  | [] => finished word
  | c :: rest =>
    if isSeparator c then finished word ++ wordsFrom c [] rest
    else if !word.isEmpty && beginsWord before c rest.head? then
      word :: wordsFrom c (Text.lower c) rest
    else wordsFrom c (word ++ Text.lower c) rest

/-- The words of a key in lower case. -/
def words (key : List Char) : List (List Char) := wordsFrom ' ' [] key

/-- A word with its first character in upper case. -/
def capitalized : List Char → List Char
  | [] => []
  | c :: rest => Text.upper c ++ rest

/-- The words in one spelling. -/
def spell (keyCase : KeyCase) (words : List (List Char)) : List Char :=
  match keyCase with
  | camel => words.flatMap capitalized
  | lowerCamel => words.headD [] ++ words.tail.flatMap capitalized
  | snake => Text.joined '_' words
  | screamingSnake => Text.toUpper (Text.joined '_' words)
  | kebab => Text.joined '-' words
  | screamingKebab => Text.toUpper (Text.joined '-' words)

/-- The key in one spelling; a key without words stays as it is. -/
def convert (keyCase : KeyCase) (key : String) : String :=
  let found := words key.toList
  if found.isEmpty then key else String.ofList (spell keyCase found)

mutual

/-- Every key of every object in one spelling; of keys that become the same the last value counts. -/
def apply (keyCase : KeyCase) : Json → Json
  | .array items => .array (applyItems keyCase items)
  | .object fields => .object (Keyed.ofList (applyFields keyCase fields))
  | other => other

/-- The items with their keys in one spelling. -/
def applyItems (keyCase : KeyCase) : List Json → List Json
  | [] => []
  | item :: rest => apply keyCase item :: applyItems keyCase rest

/-- The fields with their keys in one spelling. -/
def applyFields (keyCase : KeyCase) : List (String × Json) → List (String × Json)
  | [] => []
  | (name, value) :: rest => (convert keyCase name, apply keyCase value) :: applyFields keyCase rest

end

end KeyCase
end Junction.Json
