import Junction.Number.Reading
import Junction.Text.Cut

/-!
The scalars of TOML text: strings of four kinds, integers, and what a configuration never reads (floats, dates
and times). A reader takes the text after the first place and returns what is left of it.
-/

namespace Junction.Toml

/-- A space or a tab. -/
def isBlank (c : Char) : Bool := c == ' ' || c == '\t'

/-- A character that comments and strings may hold: a tab, or none of the control characters. -/
def isShown (c : Char) : Bool := c == '\t' || (0x20 ≤ c.toNat && c.toNat != 0x7F)

/-- What follows a line break; none when no line break comes. -/
def lineBreak? : List Char → Option (List Char)
  | '\n' :: rest => some rest
  | '\r' :: '\n' :: rest => some rest
  | _ => none

/-- What follows blanks. -/
def skipBlanks (s : List Char) : List Char := s.dropWhile isBlank

/-! ## Strings -/

/-- The character that a letter after a backslash stands for. -/
def escaped? : Char → Option Char
  | 'b' => some '\x08'
  | 't' => some '\t'
  | 'n' => some '\n'
  | 'f' => some '\x0c'
  | 'r' => some '\r'
  | '\x22' => some '\x22'
  | '\\' => some '\\'
  | _ => none

/-- The character of an escape after its backslash, and what follows it. -/
def escape? (s : List Char) : Option (Char × List Char) :=
  match s with
  | 'u' :: rest => code 4 rest
  | 'U' :: rest => code 8 rest
  | letter :: rest => (escaped? letter).map (·, rest)
  | [] => none
where
  /-- The character with a code of `count` digits. -/
  code (count : Nat) (s : List Char) : Option (Char × List Char) :=
    if (s.take count).length < count then none
    else ((Text.valueInBase? 16 (s.take count)).bind Text.scalar?).map (·, s.drop count)

/-- A basic string after its quote. -/
def basic? : (fuel : Nat) → List Char → Option (List Char × List Char)
  | 0, _ => none
  | fuel + 1, s =>
    match s with
    | [] => none
    | '\x22' :: rest => some ([], rest)
    | '\\' :: rest =>
      (escape? rest).bind fun (c, rest) => (basic? fuel rest).map fun (more, rest) => (c :: more, rest)
    | c :: rest =>
      if isShown c then (basic? fuel rest).map fun (more, rest) => (c :: more, rest) else none

/-- A literal string after its quote. -/
def literal? : List Char → Option (List Char × List Char)
  | [] => none
  | c :: rest =>
    if c = '\'' then some ([], rest)
    else if isShown c then (literal? rest).map fun (more, rest) => (c :: more, rest)
    else none

/-- The number of quotes that a text begins with, at most five. -/
def quoteRun (quote : Char) (s : List Char) : Nat := ((s.take 5).takeWhile (· == quote)).length

/-- What follows blanks and line breaks. -/
def skipSpace : List Char → List Char
  | [] => []
  | '\r' :: '\n' :: rest => skipSpace rest
  | c :: rest => if isBlank c || c == '\n' then skipSpace rest else c :: rest

/-- What follows blanks and the line break after them, and all space after that; none without the break. -/
def hiddenBreak? (s : List Char) : Option (List Char) := (lineBreak? (skipBlanks s)).map skipSpace

/-- A string of several lines after its quotes; a basic one knows escapes. Of more than three quotes at the
end the first ones belong to it. -/
def lines? (quote : Char) : (fuel : Nat) → List Char → Option (List Char × List Char)
  | 0, _ => none
  | fuel + 1, s =>
    let put (c : Char) (rest : List Char) : Option (List Char × List Char) :=
      (lines? quote fuel rest).map fun (more, rest) => (c :: more, rest)
    let quotes := quoteRun quote s
    if 3 ≤ quotes then some (List.replicate (quotes - 3) quote, s.drop quotes)
    else match s with
      | [] => none
      | '\\' :: rest =>
        if quote = '\'' then put '\\' rest
        else match hiddenBreak? rest with
          | some rest => lines? quote fuel rest
          | none => (escape? rest).bind fun (c, rest) => put c rest
      | '\r' :: '\n' :: rest => put '\n' rest
      | c :: rest => if c = '\n' || isShown c then put c rest else none

/-- A string that begins with the next character. -/
def string? (s : List Char) : Option (String × List Char) :=
  let several (quote : Char) (rest : List Char) : Option (List Char × List Char) :=
    lines? quote (rest.length + 1) ((lineBreak? rest).getD rest)
  let found := match s with
    | '\x22' :: '\x22' :: '\x22' :: rest => several '\x22' rest
    | '\'' :: '\'' :: '\'' :: rest => several '\'' rest
    | '\x22' :: rest => basic? (rest.length + 1) rest
    | '\'' :: rest => literal? rest
    | _ => none
  found.map fun (text, rest) => (String.ofList text, rest)

/-! ## Numbers -/

/-- Digits after a first one, each with an underscore before it or without, and what follows them. -/
def moreDigits (isDigit : Char → Bool) : List Char → List Char × List Char
  | [] => ([], [])
  | '_' :: c :: rest =>
    if isDigit c then
      let (found, rest) := moreDigits isDigit rest
      (c :: found, rest)
    else ([], '_' :: c :: rest)
  | c :: rest =>
    if isDigit c then
      let (found, rest) := moreDigits isDigit rest
      (c :: found, rest)
    else ([], c :: rest)

/-- The digits of a number without the underscores between them, and what follows; at least one digit. -/
def digits? (isDigit : Char → Bool) (s : List Char) : Option (List Char × List Char) :=
  match s with
  | c :: rest =>
    if isDigit c then
      let (found, rest) := moreDigits isDigit rest
      some (c :: found, rest)
    else none
  | [] => none

/-- A sign, where there is one. -/
def sign (s : List Char) : List Char × List Char :=
  match s with
  | '+' :: rest => (['+'], rest)
  | '-' :: rest => (['-'], rest)
  | _ => ([], s)

/-- A decimal integer as sign and digits: a single zero, or digits that do not begin with one. -/
def decimal? (s : List Char) : Option (List Char × List Char × List Char) :=
  let (mark, rest) := sign s
  match rest with
  | '0' :: rest => some (mark, ['0'], rest)
  | _ => (digits? Char.isDigit rest).map fun (found, rest) => (mark, found, rest)

/-- An integer of a signed 64-bit word, in one of four bases. -/
def integer? (s : List Char) : Option (Int × List Char) :=
  let based (base : Nat) (isDigit : Char → Bool) (rest : List Char) : Option (Int × List Char) :=
    (digits? isDigit rest).bind fun (found, rest) =>
      (Text.valueInBase? base found).bind fun value =>
        if value < Text.signedLimit then some ((value : Int), rest) else none
  match s with
  | '0' :: 'x' :: rest => based 16 (fun c => (Text.hexValue? c).isSome) rest
  | '0' :: 'o' :: rest => based 8 (fun c => '0' ≤ c && c ≤ '7') rest
  | '0' :: 'b' :: rest => based 2 (fun c => c == '0' || c == '1') rest
  | _ =>
    (decimal? s).bind fun (mark, found, rest) =>
      (Text.digitsValue? found).bind fun value =>
        if mark = ['-'] then (if value ≤ Text.signedLimit then some (-(value : Int), rest) else none)
        else if value < Text.signedLimit then some ((value : Int), rest)
        else none

/-- An exponent with its letter. -/
def exponent? (s : List Char) : Option (List Char × List Char) :=
  match s with
  | c :: rest =>
    if c = 'e' ∨ c = 'E' then
      let (mark, rest) := sign rest
      (digits? Char.isDigit rest).map fun (found, rest) => ('e' :: (mark ++ found), rest)
    else none
  | [] => none

/-- What follows a float; none for one above the greatest number. -/
def float? (s : List Char) : Option (List Char) :=
  let finite (negative : Bool) (text rest : List Char) : Option (List Char) :=
    if negative || (Double.read? text).isSome then some rest else none
  match (sign s).2 with
  | 'i' :: 'n' :: 'f' :: rest => some rest
  | 'n' :: 'a' :: 'n' :: rest => some rest
  | _ =>
    (decimal? s).bind fun (mark, whole, rest) =>
      let negative := mark == ['-']
      match rest with
      | '.' :: rest =>
        (digits? Char.isDigit rest).bind fun (fraction, rest) =>
          let (exponent, rest) := (exponent? rest).getD ([], rest)
          finite negative (whole ++ '.' :: fraction ++ exponent) rest
      | _ => (exponent? rest).bind fun (exponent, rest) => finite negative (whole ++ exponent) rest

/-! ## Dates and times -/

/-- A number of exactly `count` digits between two bounds. -/
def fixed? (count low high : Nat) (s : List Char) : Option (Nat × List Char) :=
  if (s.take count).length < count then none
  else (Text.digitsValue? (s.take count)).bind fun value =>
    if low ≤ value ∧ value ≤ high then some (value, s.drop count) else none

/-- What follows a character. -/
def after? (c : Char) (s : List Char) : Option (List Char) := Text.after? [c] s

/-- The number of days of a month. -/
def daysIn (year month : Nat) : Nat :=
  if month = 2 then (if (year % 4 = 0 ∧ year % 100 ≠ 0) ∨ year % 400 = 0 then 29 else 28)
  else if [4, 6, 9, 11].contains month then 30
  else 31

/-- What follows a date. -/
def date? (s : List Char) : Option (List Char) := do
  let (year, rest) ← fixed? 4 0 9999 s
  let (month, rest) ← fixed? 2 1 12 (← after? '-' rest)
  let (_, rest) ← fixed? 2 1 (daysIn year month) (← after? '-' rest)
  some rest

/-- What follows a time of day. -/
def time? (s : List Char) : Option (List Char) := do
  let (_, rest) ← fixed? 2 0 23 s
  let (_, rest) ← fixed? 2 0 59 (← after? ':' rest)
  let (_, rest) ← fixed? 2 0 60 (← after? ':' rest)
  match rest with
  | '.' :: c :: more => if c.isDigit then some (more.dropWhile Char.isDigit) else some rest
  | _ => some rest

/-- What follows an offset from universal time; none when a begun one is wrong. -/
def offset? (s : List Char) : Option (List Char) :=
  match s with
  | 'Z' :: rest => some rest
  | 'z' :: rest => some rest
  | c :: rest =>
    if c = '+' ∨ c = '-' then do
      let (_, rest) ← fixed? 2 0 23 rest
      let (_, rest) ← fixed? 2 0 59 (← after? ':' rest)
      some rest
    else some s
  | [] => some []

/-- What follows a date, a time, or both. -/
def dateTime? (s : List Char) : Option (List Char) :=
  match date? s with
  | some rest =>
    match rest with
    | c :: more =>
      if c = 'T' ∨ c = 't' ∨ c = ' ' then
        match time? more with
        | some rest => offset? rest
        | none => some rest
      else some rest
    | [] => some []
  | none => time? s

end Junction.Toml
