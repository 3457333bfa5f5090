import Junction.Json.Decimal

/-!
JSON text as a tree of what is written: fields in their order with repeated names, and without a judgement
on numbers out of range, unpaired surrogates or depth. `Written.toJson?` passes that judgement.
-/

namespace Junction.Json

/-- A JSON text as it is written. -/
inductive Written where
  | null
  | bool (value : Bool)
  /-- A number, none when it is out of range. -/
  | number (value : Option Number)
  /-- A text, none when it holds an unpaired surrogate. -/
  | text (value : Option String)
  | array (items : List Written)
  | object (fields : List (Option String × Written))
deriving Inhabited

namespace Written

/-- The four characters that may stand between tokens. -/
def isSpace (c : Char) : Bool := c == ' ' || c == '\n' || c == '\t' || c == '\r'

/-- The text from its first token on. -/
def tokens (s : List Char) : List Char := s.dropWhile isSpace

/-- A piece of a text: a character, or a UTF-16 unit given by its number. -/
inductive Piece where
  | char (c : Char)
  | unit (code : Nat)

/-- The character that a letter after a backslash stands for. -/
def escaped? : Char → Option Char
  | '\x22' => some '\x22'
  | '\\' => some '\\'
  | '/' => some '/'
  | 'b' => some '\x08'
  | 'f' => some '\x0c'
  | 'n' => some '\n'
  | 'r' => some '\r'
  | 't' => some '\t'
  | _ => none

/-- The pieces of a text up to its closing quote, and what follows the quote. -/
def pieces? : List Char → Option (List Piece × List Char)
  | [] => none
  | '\x22' :: rest => some ([], rest)
  | '\\' :: 'u' :: a :: b :: c :: d :: rest =>
    (Text.valueInBase? 16 [a, b, c, d]).bind fun code =>
      (pieces? rest).map fun (found, rest) => (.unit code :: found, rest)
  | '\\' :: c :: rest =>
    (escaped? c).bind fun c => (pieces? rest).map fun (found, rest) => (.char c :: found, rest)
  | c :: rest =>
    if c.toNat < 0x20 ∨ c = '\\' then none
    else (pieces? rest).map fun (found, rest) => (.char c :: found, rest)

/-- The characters of the pieces; none when a surrogate is not part of a pair. -/
def characters? : List Piece → Option (List Char)
  | [] => some []
  | .char c :: rest => (characters? rest).map (c :: ·)
  | .unit high :: .unit low :: rest =>
    if 0xD800 ≤ high ∧ high ≤ 0xDBFF then
      if 0xDC00 ≤ low ∧ low ≤ 0xDFFF then
        (characters? rest).map (Char.ofNat (0x10000 + (high - 0xD800) * 0x400 + (low - 0xDC00)) :: ·)
      else none
    else (Text.scalar? high).bind fun c => (characters? (.unit low :: rest)).map (c :: ·)
  | .unit code :: rest => (Text.scalar? code).bind fun c => (characters? rest).map (c :: ·)

/-- A text after its opening quote. -/
def text? (s : List Char) : Option (Option String × List Char) :=
  (pieces? s).map fun (found, rest) => ((characters? found).map String.ofList, rest)

mutual

/-- The value a text starts with, and what follows it; `fuel` bounds the number of tokens. -/
def value? : (fuel : Nat) → List Char → Option (Written × List Char)
  | 0, _ => none
  | fuel + 1, s =>
    match tokens s with
    | 'n' :: 'u' :: 'l' :: 'l' :: rest => some (.null, rest)
    | 't' :: 'r' :: 'u' :: 'e' :: rest => some (.bool true, rest)
    | 'f' :: 'a' :: 'l' :: 's' :: 'e' :: rest => some (.bool false, rest)
    | '\x22' :: rest => (text? rest).map fun (found, rest) => (.text found, rest)
    | '[' :: rest =>
      match tokens rest with
      | ']' :: rest => some (.array [], rest)
      | _ => (items? fuel rest).map fun (found, rest) => (.array found, rest)
    | '\x7b' :: rest =>
      match tokens rest with
      | '\x7d' :: rest => some (.object [], rest)
      | _ => (fields? fuel rest).map fun (found, rest) => (.object found, rest)
    | s => (Decimal.read? s).map fun (found, rest) => (.number found.value?, rest)

/-- The items of an array up to its closing bracket, of which there is at least one. -/
def items? : (fuel : Nat) → List Char → Option (List Written × List Char)
  | 0, _ => none
  | fuel + 1, s =>
    (value? fuel s).bind fun (item, rest) =>
      match tokens rest with
      | ',' :: rest => (items? fuel rest).map fun (more, rest) => (item :: more, rest)
      | ']' :: rest => some ([item], rest)
      | _ => none

/-- The fields of an object up to its closing brace, of which there is at least one. -/
def fields? : (fuel : Nat) → List Char → Option (List (Option String × Written) × List Char)
  | 0, _ => none
  | fuel + 1, s =>
    match tokens s with
    | '\x22' :: rest =>
      (text? rest).bind fun (name, rest) =>
        match tokens rest with
        | ':' :: rest =>
          (value? fuel rest).bind fun (value, rest) =>
            match tokens rest with
            | ',' :: rest => (fields? fuel rest).map fun (more, rest) => ((name, value) :: more, rest)
            | '\x7d' :: rest => some ([(name, value)], rest)
            | _ => none
        | _ => none
    | _ => none

end

/-- The tree of a whole text. -/
def ofText? (s : List Char) : Option Written :=
  match value? (2 * s.length + 2) s with
  | some (found, rest) => if (tokens rest).isEmpty then some found else none
  | none => none

/-- The greatest number of arrays and objects around a value. -/
def depthLimit : Nat := 127

mutual

/-- The value of a tree below `room` more arrays and objects; none when a number is out of range, a text
is none, or the depth exceeds the room. The last of several fields with one name counts. -/
def valueWithin? : (room : Nat) → Written → Option Json
  | _, .null => some .null
  | _, .bool value => some (.bool value)
  | _, .number value => value.map .number
  | _, .text value => value.map .text
  | room, .array items =>
    if room = 0 then none else (itemsWithin? (room - 1) items).map .array
  | room, .object fields =>
    if room = 0 then none
    else (fieldsWithin? (room - 1) fields).map fun found => .object (Keyed.ofList found)

/-- The values of the items. -/
def itemsWithin? : (room : Nat) → List Written → Option (List Json)
  | _, [] => some []
  | room, item :: rest =>
    (valueWithin? room item).bind fun value => (itemsWithin? room rest).map (value :: ·)

/-- The values of the fields. -/
def fieldsWithin? : (room : Nat) → List (Option String × Written) → Option (List (String × Json))
  | _, [] => some []
  | room, (name, item) :: rest =>
    name.bind fun name =>
      (valueWithin? room item).bind fun value => (fieldsWithin? room rest).map ((name, value) :: ·)

end

/-- The value of a tree. -/
def toJson? (tree : Written) : Option Json := valueWithin? depthLimit tree

end Written

/-- The value of a JSON text; none for a text that is no JSON, too deep, or has a value out of range. -/
def read? (s : String) : Option Json := (Written.ofText? s.toList).bind Written.toJson?

end Junction.Json
