import Junction.Text.Letter

/-!
Cutting, trimming and replacing on text. Every function works on the list of characters; those used
throughout have a form on strings too.
-/

namespace Junction.Text

/-- The pieces between the separators; one piece more than there are separators. -/
def pieces (separator : Char) : List Char → List (List Char)
  | [] => [[]]
  | c :: rest =>
    if c = separator then [] :: pieces separator rest
    else match pieces separator rest with
      | [] => [[c]]
      | piece :: more => (c :: piece) :: more

/-- The pieces joined again, with the separator between them. -/
def joined (separator : Char) : List (List Char) → List Char
  | [] => []
  | [piece] => piece
  | piece :: more => piece ++ separator :: joined separator more

/-- The pieces of a string between separators. -/
def split (separator : Char) (s : String) : List String :=
  (pieces separator s.toList).map String.ofList

/-- White space removed from both ends. -/
def trimmed (s : List Char) : List Char :=
  (((s.dropWhile isWhite).reverse).dropWhile isWhite).reverse

/-- White space removed from both ends of a string. -/
def trim (s : String) : String := String.ofList (trimmed s.toList)

/-- Only white space, or nothing. -/
def isBlank (s : String) : Bool := s.toList.all isWhite

/-- What follows `start` in a text that begins with it. -/
def after? : (start s : List Char) → Option (List Char)
  | [], s => some s
  | _ :: _, [] => none
  | a :: start, c :: s => if a = c then after? start s else none

/-- The text begins with `start`. -/
def begins (start s : List Char) : Bool := (after? start s).isSome

/-- The text ends with `ending`. -/
def ends (ending s : List Char) : Bool := begins ending.reverse s.reverse

/-- `part` occurs somewhere in the text. -/
def occurs (part : List Char) : List Char → Bool
  | [] => part.isEmpty
  | c :: s => begins part (c :: s) || occurs part s

/-- The first occurrence of `old` replaced by `new`. -/
def replaceFirst (old new : List Char) : List Char → List Char
  | [] => if old.isEmpty then new else []
  | c :: s =>
    match after? old (c :: s) with
    | some rest => new ++ rest
    | none => c :: replaceFirst old new s

/-- Every occurrence of `old` replaced by `new`, found from left to right without overlap; `skip` characters
of the last occurrence are still to be passed over. -/
def replaceFrom (old new : List Char) : (skip : Nat) → List Char → List Char
  | _, [] => []
  | skip + 1, _ :: s => replaceFrom old new skip s
  | 0, c :: s =>
    if begins old (c :: s) then new ++ replaceFrom old new (old.length - 1) s
    else c :: replaceFrom old new 0 s

/-- Every occurrence of a non-empty `old` replaced by `new`. -/
def replaceAll (old new s : String) : String :=
  if old.isEmpty then s else String.ofList (replaceFrom old.toList new.toList 0 s.toList)

/-- The value of a non-empty text of decimal digits. -/
def digitsValue? (s : List Char) : Option Nat :=
  if s.isEmpty || !s.all Char.isDigit then none
  else some (s.foldl (fun value c => 10 * value + (c.toNat - 48)) 0)

/-- The largest value of an unsigned 64-bit word. -/
def wordLimit : Nat := 18446744073709551615

/-- The number of negative values of a signed 64-bit word. -/
def signedLimit : Nat := 9223372036854775808

/-- An unsigned 64-bit word in decimal, with an optional plus sign. -/
def word? (s : List Char) : Option Nat :=
  let digits := match s with
    | '+' :: rest => rest
    | _ => s
  (digitsValue? digits).filter (· ≤ wordLimit)

/-- The value of one hexadecimal digit. -/
def hexValue? (c : Char) : Option Nat :=
  if '0' ≤ c ∧ c ≤ '9' then some (c.toNat - 48)
  else if 'a' ≤ c ∧ c ≤ 'f' then some (c.toNat - 87)
  else if 'A' ≤ c ∧ c ≤ 'F' then some (c.toNat - 55)
  else none

/-- The value of a non-empty text of digits in a base of at most sixteen. -/
def valueInBase? (base : Nat) (s : List Char) : Option Nat :=
  if s.isEmpty then none
  else s.foldlM (fun value c => (hexValue? c).bind fun digit =>
    if digit < base then some (base * value + digit) else none) 0

/-- One hexadecimal digit in lower case. -/
def hexDigit (n : Nat) : Char :=
  if n < 10 then Char.ofNat (48 + n) else Char.ofNat (87 + n)

/-- The lowest `width` hexadecimal digits of a number. -/
def hexDigits : (width n : Nat) → List Char
  | 0, _ => []
  | width + 1, n => hexDigits width (n / 16) ++ [hexDigit (n % 16)]

/-- The code point as a character; surrogates and values beyond the last plane are none. -/
def scalar? (code : Nat) : Option Char :=
  if h : code.isValidChar then some (Char.ofNatAux code h) else none

end Junction.Text
