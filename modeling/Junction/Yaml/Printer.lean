import Junction.Json.Printer
import Junction.Yaml.Cursor
import Junction.Yaml.Scalar

/-!
JSON values as YAML text: block collections indented by two columns, sequences in mappings not indented, and
for each text the plainest style in which it reads back.
-/

namespace Junction.Yaml

/-! ## Styles of texts -/

/-- A character that a text may hold outside double quotes. -/
def isPrintable (c : Char) : Bool :=
  let n := c.toNat
  n == 0x0A || (0x20 ≤ n && n ≤ 0x7E) || (0xA0 ≤ n && n ≤ 0xD7FF) ||
    (0xE000 ≤ n && n != 0xFEFF && n != 0xFFFE && n != 0xFFFF)

/-- The styles of a text. -/
inductive Style where
  | plain
  | single
  | double
  | literal
deriving DecidableEq, Repr, Inhabited

/-- What the characters of a text allow. -/
structure Allowed where
  multiline : Bool
  plain : Bool
  single : Bool
  literal : Bool

/-- Blank, line break, or no character at all. -/
def isBlankOrEnd (c : Option Char) : Bool := (c.map fun c => isBlank c || isBreak c).getD true

/-- The characters that begin no plain text. -/
def leadingIndicators : List Char :=
  ['#', ',', '[', ']', '\x7b', '\x7d', '&', '*', '!', '|', '>', '\'', '\x22', '%', '@', '\x60']

/-- The first character of a text, or its place before the second one, begins another kind of node. -/
def leadsAway (s : List Char) : Bool :=
  match s with
  | [] => false
  | c :: rest =>
    Text.begins ['-', '-', '-'] s || Text.begins ['.', '.', '.'] s || leadingIndicators.contains c ||
      ((c == '?' || c == ':' || c == '-') && isBlankOrEnd rest.head?)

/-- After its first character a text has a colon before a blank, or a number sign after one. -/
def breaksOff : List Char → Bool
  | [] => false
  | [_] => false
  | before :: c :: rest =>
    (c == ':' && isBlankOrEnd rest.head?) || (c == '#' && (isBlank before || isBreak before)) ||
      breaksOff (c :: rest)

/-- Two neighbouring characters that pass one test each. -/
def hasPair (first second : Char → Bool) : List Char → Bool
  | a :: b :: rest => (first a && second b) || hasPair first second (b :: rest)
  | _ => false

/-- The end of a text passes a test. -/
def atEdge (test : Char → Bool) (c : Option Char) : Bool := (c.map test).getD false

/-- What the characters of a text allow. -/
def allowed (s : List Char) : Allowed :=
  if s.isEmpty then ⟨false, true, true, false⟩
  else
    let isSpace (c : Char) : Bool := c == ' '
    let multiline := s.any isBreak
    let edges (c : Option Char) : Bool := atEdge (fun c => isSpace c || isBreak c) c
    let breakSpace := hasPair isBreak isSpace s
    let special := hasPair isSpace isBreak s || !s.all isPrintable
    { multiline := multiline
      plain := !(multiline || edges s.head? || edges s.getLast? || special || leadsAway s || breaksOff s)
      single := !(breakSpace || special)
      literal := !(atEdge isSpace s.getLast? || special) }

/-- The style of a text: literal when it has several lines, quoted when it would read as another value. -/
def styleOf (simpleKey : Bool) (s : String) : Style :=
  let chars := s.toList
  let found := allowed chars
  let wanted :=
    if chars.contains '\n' then Style.literal
    else match Scalar.ofText s with
      | .text => if Scalar.isPaddedDigits chars then .single else .plain
      | _ => .single
  let wanted := if simpleKey && found.multiline then .double else wanted
  let wanted := if wanted = .plain ∧ !found.plain then .single else wanted
  let wanted := if wanted = .single ∧ !found.single then .double else wanted
  if wanted = .literal ∧ (!found.literal || simpleKey) then .double else wanted

/-! ## The sheet -/

/-- Text written so far: its last column, whether a space ends it, and whether its last line has only
indentation and indicators. -/
structure Sheet where
  text : String
  column : Nat
  spaced : Bool
  indented : Bool

namespace Sheet

/-- An empty sheet. -/
def empty : Sheet := ⟨"", 0, true, true⟩

/-- One more character on the line. -/
def put (sheet : Sheet) (c : Char) : Sheet := { sheet with text := sheet.text.push c, column := sheet.column + 1 }

/-- More characters on the line. -/
def putAll (sheet : Sheet) (s : List Char) : Sheet := s.foldl put sheet

/-- A line break. -/
def putBreak (sheet : Sheet) (c : Char) : Sheet := { sheet with text := sheet.text.push c, column := 0 }

/-- An indicator, after a space where it needs one. -/
def indicate (sheet : Sheet) (text : List Char) (needsSpace isSpace isIndent : Bool) : Sheet :=
  let sheet := if needsSpace && !sheet.spaced then sheet.put ' ' else sheet
  { sheet.putAll text with spaced := isSpace, indented := sheet.indented && isIndent }

/-- A new line, unless the sheet is at its start already, filled up to a column. -/
def lineAt (sheet : Sheet) (indent : Nat) : Sheet :=
  let sheet :=
    if !sheet.indented || indent < sheet.column || (sheet.column == indent && !sheet.spaced) then
      sheet.putBreak '\n'
    else sheet
  { sheet.putAll (List.replicate (indent - sheet.column) ' ') with spaced := true, indented := true }

/-! ## Texts -/

/-- The letter that stands for a character after a backslash. -/
def letterOf? (c : Char) : Option Char :=
  match c.toNat with
  | 0x00 => some '0'
  | 0x07 => some 'a'
  | 0x08 => some 'b'
  | 0x09 => some 't'
  | 0x0A => some 'n'
  | 0x0B => some 'v'
  | 0x0C => some 'f'
  | 0x0D => some 'r'
  | 0x1B => some 'e'
  | 0x22 => some '\x22'
  | 0x5C => some '\\'
  | 0x85 => some 'N'
  | 0xA0 => some '_'
  | 0x2028 => some 'L'
  | 0x2029 => some 'P'
  | _ => none

/-- The hexadecimal digits of a code in upper case. -/
def codeDigits (width code : Nat) : List Char := (Text.hexDigits width code).map Char.toUpper

/-- A character inside double quotes. -/
def doubleQuoted (c : Char) : List Char :=
  if isPrintable c && !isBreak c && c != '\x22' && c != '\\' then [c]
  else match letterOf? c with
    | some letter => ['\\', letter]
    | none =>
      if c.toNat ≤ 0xFF then '\\' :: 'x' :: codeDigits 2 c.toNat
      else if c.toNat ≤ 0xFFFF then '\\' :: 'u' :: codeDigits 4 c.toNat
      else '\\' :: 'U' :: codeDigits 8 c.toNat

/-- The characters of a single-quoted text; `broken` says that line breaks come right before. -/
def putSingle (indent : Nat) (broken : Bool) (sheet : Sheet) : List Char → Sheet
  | [] => if broken then sheet.lineAt indent else sheet
  | c :: rest =>
    if c = ' ' then putSingle indent broken (sheet.put c) rest
    else if isBreak c then putSingle indent true { sheet.putBreak c with indented := true } rest
    else
      let sheet := if broken then sheet.lineAt indent else sheet
      let sheet := if c = '\'' then sheet.put '\'' else sheet
      putSingle indent false { sheet.put c with indented := false } rest

/-- The lines of a literal text; `broken` says that a line break comes right before. -/
def putLiteral (indent : Nat) (broken : Bool) (sheet : Sheet) : List Char → Sheet
  | [] => sheet
  | c :: rest =>
    if isBreak c then putLiteral indent true { sheet.putBreak c with indented := true } rest
    else
      let sheet := if broken then sheet.lineAt indent else sheet
      putLiteral indent false { sheet.put c with indented := false } rest

/-- The hints after the indicator of a literal text: the indentation when the text begins with a space or a
line break, and what becomes of the breaks at its end. -/
def hints (s : List Char) : List Char :=
  let leading := if atEdge (fun c => c == ' ' || isBreak c) s.head? then ['2'] else []
  let trailing := match s.reverse with
    | [] => ['-']
    | [c] => if isBreak c then ['+'] else ['-']
    | c :: before :: _ => if !isBreak c then ['-'] else if isBreak before then ['+'] else []
  leading ++ trailing

/-- A text in its style; continuation lines are indented to the given column. -/
def scalar (indent : Nat) (style : Style) (sheet : Sheet) (s : List Char) : Sheet :=
  match style with
  | .plain =>
    let sheet := if !sheet.spaced && !s.isEmpty then sheet.put ' ' else sheet
    { sheet.putAll s with spaced := false, indented := false }
  | .single =>
    (putSingle indent false (sheet.indicate ['\''] true false false) s).indicate ['\''] false false false
  | .double =>
    let sheet := (sheet.indicate ['\x22'] true false false).putAll (s.flatMap doubleQuoted)
    sheet.indicate ['\x22'] false false false
  | .literal =>
    let sheet := (sheet.indicate ('|' :: hints s) true false false).putBreak '\n'
    putLiteral indent true { sheet with spaced := true, indented := true } s

/-! ## Values -/

/-- The column of a collection inside one at column `indent`, which is none at the root. -/
def deeper (indent : Option Nat) : Nat := (indent.map (· + 2)).getD 0

/-- The column of the continuation lines of a scalar. -/
def scalarIndent (indent : Option Nat) : Nat := (indent.map (· + 2)).getD 2

/-- Doubles in YAML carry no sign on a positive exponent. -/
def numberStyle : Double.Style := ⟨""⟩

/-- A key is written before its colon on one line: at most 128 bytes without a line break. -/
def isSimpleKey (key : String) : Bool := key.utf8ByteSize ≤ 128 && !key.toList.any isBreak

/-- The indicator before a value whose key has been written, or the key and its indicator. -/
def key (indent : Nat) (sheet : Sheet) (name : String) : Sheet :=
  let sheet := sheet.lineAt indent
  if isSimpleKey name then
    (scalar (indent + 2) (styleOf true name) sheet name.toList).indicate [':'] false false false
  else
    let sheet := sheet.indicate ['?'] true false true
    let sheet := scalar (indent + 2) (styleOf false name) sheet name.toList
    (sheet.lineAt indent).indicate [':'] true false true

mutual

/-- A value inside a collection at a column; `inMapping` says that it is the value of a key. -/
def value (indent : Option Nat) (inMapping : Bool) (sheet : Sheet) : Json → Sheet
  | .null => scalar (scalarIndent indent) .plain sheet "null".toList
  | .bool flag => scalar (scalarIndent indent) .plain sheet (if flag then "true" else "false").toList
  | .number number => scalar (scalarIndent indent) .plain sheet (number.render numberStyle).toList
  | .text text => scalar (scalarIndent indent) (styleOf false text) sheet text.toList
  | .array [] => (sheet.indicate ['['] true true false).indicate [']'] false false false
  | .object [] => (sheet.indicate ['\x7b'] true true false).indicate ['\x7d'] false false false
  | .array items =>
    let column := if inMapping && !sheet.indented then indent.getD 0 else deeper indent
    putItems column sheet items
  | .object fields => putFields (deeper indent) sheet fields

/-- The items of a sequence at a column. -/
def putItems (column : Nat) (sheet : Sheet) : List Json → Sheet
  | [] => sheet
  | item :: rest =>
    let sheet := (sheet.lineAt column).indicate ['-'] true false true
    putItems column (value (some column) false sheet item) rest

/-- The fields of a mapping at a column. -/
def putFields (column : Nat) (sheet : Sheet) : List (String × Json) → Sheet
  | [] => sheet
  | (name, item) :: rest =>
    putFields column (value (some column) true (key column sheet name) item) rest

end

end Sheet

/-- The YAML text of a value. -/
def encode (value : Json) : String := ((Sheet.empty.value none false value).lineAt 0).text

end Junction.Yaml
