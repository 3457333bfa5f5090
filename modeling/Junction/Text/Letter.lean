import Junction.Text.LetterTable
import Junction.Text.CaseTable

/-!
Character classes and case mappings. ASCII is decided by comparing code points, everything else by the
tables, so a question about an ASCII character never reaches a table.
-/

namespace Junction.Text

/-- An odd number of boundaries at or below the code point. -/
def inRanges (bounds : Array Nat) (code : Nat) : Bool :=
  bounds.toList.countP (fun bound => bound ≤ code) % 2 == 1

/-- A letter: the Alphabetic property. -/
def isAlphabetic (c : Char) : Bool :=
  if c.toNat < 128 then c.isAlpha else inRanges alphabeticBounds c.toNat

/-- A number of any general category (Nd, Nl, No). -/
def isNumeric (c : Char) : Bool :=
  if c.toNat < 128 then c.isDigit else inRanges numericBounds c.toNat

/-- A letter or a number. -/
def isAlphanumeric (c : Char) : Bool := isAlphabetic c || isNumeric c

/-- The Uppercase property. -/
def isUppercase (c : Char) : Bool :=
  if c.toNat < 128 then c.isUpper else inRanges uppercaseBounds c.toNat

/-- The Lowercase property. -/
def isLowercase (c : Char) : Bool :=
  if c.toNat < 128 then c.isLower else inRanges lowercaseBounds c.toNat

/-- The White_Space property. -/
def isWhite (c : Char) : Bool :=
  let n := c.toNat
  (9 ≤ n && n ≤ 13) || n == 0x20 || n == 0x85 || n == 0xA0 || n == 0x1680 || (0x2000 ≤ n && n ≤ 0x200A) ||
    n == 0x2028 || n == 0x2029 || n == 0x202F || n == 0x205F || n == 0x3000

/-- The image of a code point under a table of runs and expansions; itself when neither lists it. -/
def mapped (runs : Array CaseRun) (expansions : Array (Nat × List Nat)) (c : Char) : List Char :=
  match expansions.find? (fun entry => entry.1 == c.toNat) with
  | some (_, codes) => codes.map Char.ofNat
  | none =>
    match runs.findSome? (fun run => run.image? c.toNat) with
    | some code => [Char.ofNat code]
    | none => [c]

/-- The full uppercase mapping of one character, without regard to its neighbours. -/
def upper (c : Char) : List Char :=
  if c.toNat < 128 then [c.toUpper] else mapped upperRuns upperExpansions c

/-- The full lowercase mapping of one character, without regard to its neighbours. -/
def lower (c : Char) : List Char :=
  if c.toNat < 128 then [c.toLower] else mapped lowerRuns lowerExpansions c

/-- Every character in its full uppercase form. -/
def toUpper (s : List Char) : List Char := s.flatMap upper

/-- ASCII letters in upper case; all other characters unchanged. -/
def upperAscii (s : String) : String := s.map Char.toUpper

/-- ASCII letters in lower case; all other characters unchanged. -/
def lowerAscii (s : String) : String := s.map Char.toLower

/-- Equal up to the case of ASCII letters. -/
def sameIgnoringCase (a b : String) : Bool := lowerAscii a == lowerAscii b

end Junction.Text
