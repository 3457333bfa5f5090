import Junction.Text.Cut

/-!
A place in a YAML text: what follows it, and its index, line and column.
-/

namespace Junction.Yaml

/-- A space or a tab. -/
def isBlank (c : Char) : Bool := c == ' ' || c == '\t'

/-- A character that ends a line. -/
def isBreak (c : Char) : Bool :=
  c == '\n' || c == '\r' || c.toNat == 0x85 || c.toNat == 0x2028 || c.toNat == 0x2029

/-- A character of anchors, directive names and tag handles. -/
def isWordChar (c : Char) : Bool := c.isAlphanum || c == '_' || c == '-'

/-- A character that may stand in a YAML text. -/
def isAllowed (c : Char) : Bool :=
  let n := c.toNat
  n == 0x09 || n == 0x0A || n == 0x0D || (0x20 ≤ n && n ≤ 0x7E) || n == 0x85 || (0xA0 ≤ n && n ≤ 0xD7FF) ||
    (0xE000 ≤ n && n ≤ 0xFFFD && n != 0xFEFF) || 0x10000 ≤ n

/-- What follows a place, and where the place is. -/
structure Cursor where
  rest : List Char
  index : Nat
  line : Nat
  column : Nat
deriving Inhabited

namespace Cursor

/-- The place before a text. -/
def start (text : List Char) : Cursor := ⟨text, 0, 0, 0⟩

/-- Nothing follows. -/
def atEnd (c : Cursor) : Bool := c.rest.isEmpty

/-- The next character passes a test. -/
def next (c : Cursor) (test : Char → Bool) : Bool := (c.rest.head?.map test).getD false

/-- The next character is the given one. -/
def sees (c : Cursor) (char : Char) : Bool := c.rest.head? == some char

/-- After `count` characters comes a blank, a line break or the end. -/
def blankAfter (c : Cursor) (count : Nat) : Bool :=
  (((c.rest.drop count).head?).map fun char => isBlank char || isBreak char).getD true

/-- One of the given characters comes after `count` characters. -/
def anyAfter (c : Cursor) (count : Nat) (chars : List Char) : Bool :=
  (((c.rest.drop count).head?).map chars.contains).getD false

/-- The place after the next character; a carriage return and the newline after it are one break. -/
def advance (c : Cursor) : Cursor :=
  match c.rest with
  | [] => c
  | '\r' :: '\n' :: rest => ⟨rest, c.index + 2, c.line + 1, 0⟩
  | char :: rest =>
    if isBreak char then ⟨rest, c.index + 1, c.line + 1, 0⟩ else ⟨rest, c.index + 1, c.line, c.column + 1⟩

/-- The place after several characters. -/
def advanceBy (c : Cursor) : Nat → Cursor
  | 0 => c
  | count + 1 => c.advance.advanceBy count

/-- The characters that pass a test, none of them a line break, and the place after them. -/
def takeWhile (c : Cursor) (test : Char → Bool) : List Char × Cursor :=
  let taken := c.rest.takeWhile fun char => !isBreak char && test char
  (taken, ⟨c.rest.drop taken.length, c.index + taken.length, c.line, c.column + taken.length⟩)

/-- The place after characters that pass a test. -/
def dropWhile (c : Cursor) (test : Char → Bool) : Cursor := (c.takeWhile test).2

/-- The text of the line break that follows; only two of the breaks keep their own character. -/
def lineBreak (c : Cursor) : List Char :=
  match c.rest with
  | [] => []
  | char :: _ =>
    if !isBreak char then []
    else if char.toNat = 0x2028 ∨ char.toNat = 0x2029 then [char]
    else ['\n']

/-- A document marker begins here: three dashes or dots at the start of a line, alone or before a blank. -/
def atMarker (c : Cursor) (char : Char) : Bool :=
  c.column == 0 && Text.begins [char, char, char] c.rest && c.blankAfter 3

/-- The place after blanks, and after a comment if one begins there. -/
def skipComment (c : Cursor) : Cursor :=
  let c := c.dropWhile isBlank
  if c.sees '#' then c.dropWhile (fun _ => true) else c

end Cursor
end Junction.Yaml
