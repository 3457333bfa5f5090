import Junction.Text.Utf8
import Junction.Yaml.Cursor

/-!
The tokens of a YAML text, and the scalars among them.
-/

namespace Junction.Yaml

/-- A token. -/
inductive Token where
  | version (major minor : Nat)
  | tagDirective (handle start : String)
  | documentStart
  | documentEnd
  | blockSequenceStart
  | blockMappingStart
  | blockEnd
  | flowSequenceStart
  | flowSequenceEnd
  | flowMappingStart
  | flowMappingEnd
  | blockEntry
  | flowEntry
  | key
  | value
  | alias (name : String)
  | anchor (name : String)
  | tag (handle suffix : String)
  | scalar (plain : Bool) (text : String)
deriving DecidableEq, Repr, Inhabited

namespace Token

/-! ## White space inside scalars -/

/-- White space between two words of a scalar: blanks on one line, or a first line break and further ones. -/
structure Gap where
  blanks : List Char
  broken : Bool
  first : List Char
  further : List Char
deriving Inhabited

/-- No white space. -/
def Gap.none : Gap := ⟨[], false, [], []⟩

/-- A break that a backslash hides. -/
def Gap.hidden : Gap := ⟨[], true, [], []⟩

/-- The text of white space: blanks as they are; a single newline is a space, of several the first goes. -/
def Gap.text (gap : Gap) : List Char :=
  if gap.broken then
    if gap.first = ['\n'] then (if gap.further.isEmpty then [' '] else gap.further)
    else gap.first ++ gap.further
  else gap.blanks

/-- The white space from a place on, joined to a gap. A tab before column `indent` on a later line is
refused. -/
def gap? (indent : Nat) : (fuel : Nat) → Gap → Cursor → Option (Gap × Cursor)
  | 0, _, _ => Option.none
  | fuel + 1, gap, c =>
    match c.rest with
    | [] => some (gap, c)
    | char :: _ =>
      if isBlank char then
        if gap.broken then
          if char = '\t' ∧ c.column < indent then Option.none else gap? indent fuel gap c.advance
        else gap? indent fuel { gap with blanks := gap.blanks ++ [char] } c.advance
      else if isBreak char then
        if gap.broken then gap? indent fuel { gap with further := gap.further ++ c.lineBreak } c.advance
        else gap? indent fuel ⟨[], true, c.lineBreak, []⟩ c.advance
      else some (gap, c)

/-! ## Plain scalars -/

/-- The characters that end a plain scalar inside flow brackets. -/
def flowEnds : List Char := [',', '[', ']', '\x7b', '\x7d']

/-- The characters of one word of a plain scalar, and the place after it; none for a colon before a flow
indicator inside flow brackets. -/
def plainWord? (flow : Bool) : (fuel : Nat) → Cursor → Option (List Char × Cursor)
  | 0, _ => Option.none
  | fuel + 1, c =>
    match c.rest with
    | [] => some ([], c)
    | char :: _ =>
      if isBlank char || isBreak char then some ([], c)
      else if flow && char == ':' && c.anyAfter 1 ('?' :: flowEnds) then Option.none
      else if char == ':' && c.blankAfter 1 then some ([], c)
      else if flow && flowEnds.contains char then some ([], c)
      else (plainWord? flow fuel c.advance).map fun (word, c) => (char :: word, c)

/-- The rest of a plain scalar after white space: its text, whether a line break follows it, and the place
after that white space. -/
def plainFrom? (flow : Bool) (indent : Nat) : (fuel : Nat) → (gap : Gap) → Cursor →
    Option (List Char × Bool × Cursor)
  | 0, _, _ => Option.none
  | fuel + 1, gap, c =>
    if c.atMarker '-' || c.atMarker '.' || c.sees '#' then some ([], gap.broken, c)
    else do
      let (word, after) ← plainWord? flow (c.rest.length + 1) c
      let lead := if word.isEmpty then [] else gap.text
      let gap := if word.isEmpty then gap else Gap.none
      if after.next (fun char => isBlank char || isBreak char) then
        let (gap, after) ← gap? indent (after.rest.length + 1) { gap with blanks := [] } after
        if !flow && after.column < indent then some (lead ++ word, gap.broken, after)
        else
          let (more, broken, after) ← plainFrom? flow indent fuel gap after
          some (lead ++ word ++ more, broken, after)
      else some (lead ++ word, gap.broken, after)

/-! ## Quoted scalars -/

/-- The character that a letter after a backslash stands for. -/
def escaped? (c : Char) : Option Char :=
  match c with
  | '0' => some '\x00'
  | 'a' => some '\x07'
  | 'b' => some '\x08'
  | 't' => some '\t'
  | '\t' => some '\t'
  | 'n' => some '\n'
  | 'v' => some '\x0b'
  | 'f' => some '\x0c'
  | 'r' => some '\r'
  | 'e' => some '\x1b'
  | ' ' => some ' '
  | '\x22' => some '\x22'
  | '/' => some '/'
  | '\\' => some '\\'
  | 'N' => some '\x85'
  | '_' => some '\xa0'
  | 'L' => some '\u2028'
  | 'P' => some '\u2029'
  | _ => Option.none

/-- The number of hexadecimal digits after a letter that gives a character by its code. -/
def codeLength? (c : Char) : Option Nat :=
  match c with
  | 'x' => some 2
  | 'u' => some 4
  | 'U' => some 8
  | _ => Option.none

/-- The characters of one word of a quoted scalar, whether it ends in a hidden line break, and the place
after it. -/
def quotedWord? (quote : Char) : (fuel : Nat) → Cursor → Option (List Char × Bool × Cursor)
  | 0, _ => Option.none
  | fuel + 1, c =>
    let put (char : Char) (c : Cursor) : Option (List Char × Bool × Cursor) :=
      (quotedWord? quote fuel c).map fun (word, hidden, c) => (char :: word, hidden, c)
    match c.rest with
    | [] => some ([], false, c)
    | char :: rest =>
      if isBlank char || isBreak char then some ([], false, c)
      else if quote == '\'' && char == '\'' && rest.head? == some '\'' then put '\'' (c.advanceBy 2)
      else if char == quote then some ([], false, c)
      else if quote == '\x22' && char == '\\' then
        match rest with
        | [] => Option.none
        | letter :: digits =>
          if isBreak letter then some ([], true, c.advance.advance)
          else match escaped? letter, codeLength? letter with
            | some char, _ => put char (c.advanceBy 2)
            | Option.none, some length =>
              if (digits.take length).length < length then Option.none
              else ((Text.valueInBase? 16 (digits.take length)).bind Text.scalar?).bind fun char =>
                put char (c.advanceBy (2 + length))
            | Option.none, Option.none => Option.none
      else put char c.advance

/-- The rest of a quoted scalar after its opening quote, and the place after its closing one. -/
def quotedFrom? (quote : Char) : (fuel : Nat) → Cursor → Option (List Char × Cursor)
  | 0, _ => Option.none
  | fuel + 1, c =>
    if c.atMarker '-' || c.atMarker '.' || c.atEnd then Option.none
    else do
      let (word, hidden, after) ← quotedWord? quote (c.rest.length + 1) c
      if after.sees quote then some (word, after.advance)
      else
        let (gap, after) ← gap? 0 (after.rest.length + 1) (if hidden then Gap.hidden else Gap.none) after
        let (more, after) ← quotedFrom? quote fuel after
        some (word ++ gap.text ++ more, after)

/-! ## Block scalars -/

/-- What becomes of the line breaks at the end of a block scalar. -/
inductive Chomping where
  | strip
  | clip
  | keep
deriving DecidableEq, Repr, Inhabited

/-- The spaces and empty lines from a place on: their breaks, the largest column reached, and the place
after them. With an indent, spaces count up to it; a tab before it is refused. -/
def blockBreaks? (indent : Nat) : (fuel : Nat) → (largest : Nat) → (breaks : List Char) → Cursor →
    Option (List Char × Nat × Cursor)
  | 0, _, _, _ => Option.none
  | fuel + 1, largest, breaks, c =>
    let spaces := (c.rest.takeWhile (· == ' ')).length
    let c := c.advanceBy (if indent = 0 then spaces else min spaces (indent - c.column))
    let largest := max largest c.column
    if (indent = 0 ∨ c.column < indent) ∧ c.sees '\t' then Option.none
    else if c.next isBreak then blockBreaks? indent fuel largest (breaks ++ c.lineBreak) c.advance
    else some (breaks, largest, c)

/-- The lines of a block scalar from a place on, after a first break and further ones; `blank` says whether
the line before began with a blank. -/
def blockLines? (literal : Bool) (indent : Nat) : (fuel : Nat) → (first further : List Char) →
    (blank : Bool) → Cursor → Option (List Char × List Char × List Char × Cursor)
  | 0, _, _, _, _ => Option.none
  | fuel + 1, first, further, blank, c =>
    if c.column = indent ∧ !c.atEnd then do
      let beginsBlank := c.next isBlank
      let lead :=
        if !literal && first == ['\n'] && !blank && !beginsBlank then
          (if further.isEmpty then [' '] else []) ++ further
        else first ++ further
      let (line, after) := c.takeWhile fun _ => true
      let (breaks, _, next) ← blockBreaks? indent (after.rest.length + 1) 0 [] after.advance
      let (more, first, further, next) ←
        blockLines? literal indent fuel after.lineBreak breaks beginsBlank next
      some (lead ++ line ++ more, first, further, next)
    else some ([], first, further, c)

/-- The chomping and indentation indicators after the first character of a block scalar. -/
def blockHeader? (c : Cursor) : Option (Chomping × Nat × Cursor) :=
  let chomping (c : Cursor) : Chomping × Cursor :=
    if c.sees '+' then (.keep, c.advance) else if c.sees '-' then (.strip, c.advance) else (.clip, c)
  let digit (c : Cursor) : Option (Nat × Cursor) :=
    match c.rest.head? with
    | some char =>
      if char = '0' then Option.none
      else if char.isDigit then some (char.toNat - 48, c.advance)
      else some (0, c)
    | Option.none => some (0, c)
  match chomping c with
  | (.clip, c) => (digit c).map fun (increment, after) =>
      if increment = 0 then (.clip, 0, after)
      else
        let (kind, after) := chomping after
        (kind, increment, after)
  | (kind, c) => (digit c).map fun (increment, after) => (kind, increment, after)

/-- A block scalar after its first character, in a block that is indented by `outer`. -/
def blockScalar? (literal : Bool) (outer : Int) (c : Cursor) : Option (String × Cursor) := do
  let (chomping, increment, c) ← blockHeader? c
  let c := c.skipComment
  if !c.atEnd && !c.next isBreak then Option.none
  else
    let c := c.advance
    let given := if increment = 0 then 0 else (if 0 ≤ outer then outer.toNat else 0) + increment
    let (breaks, largest, c) ← blockBreaks? given (c.rest.length + 1) 0 [] c
    let indent := if given = 0 then max (max largest (outer + 1).toNat) 1 else given
    let (text, first, further, c) ← blockLines? literal indent (c.rest.length + 1) [] breaks false c
    let ending := match chomping with
      | .strip => []
      | .clip => first
      | .keep => first ++ further
    some (String.ofList (text ++ ending), c)

/-! ## Anchors, tags and directives -/

/-- The name of an anchor or alias after its first character. -/
def anchorName? (c : Cursor) : Option (String × Cursor) :=
  let (name, after) := c.takeWhile isWordChar
  if name.isEmpty then Option.none
  else if after.blankAfter 0 || after.anyAfter 0 ['?', ':', ',', ']', '\x7d', '%', '@', '\x60'] then
    some (String.ofList name, after)
  else Option.none

/-- The number of bytes that the first byte of an escaped character announces. -/
def announced? (byte : UInt8) : Option Nat :=
  if byte &&& 0x80 = 0 then some 1
  else if byte &&& 0xE0 = 0xC0 then some 2
  else if byte &&& 0xF0 = 0xE0 then some 3
  else if byte &&& 0xF8 = 0xF0 then some 4
  else Option.none

/-- The bytes of `count` percent escapes. -/
def escapes? : (count : Nat) → List Char → Option (List UInt8 × List Char)
  | 0, s => some ([], s)
  | count + 1, s =>
    match s with
    | '%' :: high :: low :: rest =>
      (Text.byteOfHex? high low).bind fun byte =>
        (escapes? count rest).map fun (bytes, rest) => (byte :: bytes, rest)
    | _ => Option.none

/-- The character that percent escapes give, and what follows them. -/
def escapedChar? (s : List Char) : Option (Char × List Char) := do
  let (lead, _) ← escapes? 1 s
  let count ← announced? (lead.headD 0)
  let (bytes, rest) ← escapes? count s
  if (bytes.drop 1).all Text.isContinuation then
    some (((Text.units bytes).headD Option.none).getD Text.replacement, rest)
  else Option.none

/-- A character of a tag; three more are allowed between angle brackets. -/
def isTagChar (bracketed : Bool) (c : Char) : Bool :=
  isWordChar c || ";/?:@&=+$.%!~*'()".toList.contains c || (bracketed && [',', '[', ']'].contains c)

/-- The characters of a tag with its escapes resolved, and the place after them. -/
def tagChars? (bracketed : Bool) : (fuel : Nat) → Cursor → Option (List Char × Cursor)
  | 0, _ => Option.none
  | fuel + 1, c =>
    if c.sees '%' then do
      let (char, rest) ← escapedChar? c.rest
      let (more, after) ← tagChars? bracketed fuel (c.advanceBy (c.rest.length - rest.length))
      some (char :: more, after)
    else match c.rest.head? with
      | some char =>
        if isTagChar bracketed char then
          (tagChars? bracketed fuel c.advance).map fun (more, after) => (char :: more, after)
        else some ([], c)
      | Option.none => some ([], c)

/-- A tag handle: an exclamation mark, word characters, and another mark where there is one. -/
def tagHandle? (c : Cursor) : Option (List Char × Cursor) :=
  if c.sees '!' then
    let (name, after) := c.advance.takeWhile isWordChar
    if after.sees '!' then some ('!' :: (name ++ ['!']), after.advance) else some ('!' :: name, after)
  else Option.none

/-- The end of a tag: a blank, a line break, the end, or a comma inside flow brackets. -/
def endsTag (flow : Bool) (c : Cursor) : Bool := c.blankAfter 0 || (flow && c.sees ',')

/-- A tag as handle and suffix, and the place after it; the single mark is a suffix without handle. -/
def tag? (flow : Bool) (c : Cursor) : Option (Token × Cursor) := do
  let (handle, suffix, after) ←
    if c.anyAfter 1 ['<'] then do
      let (suffix, after) ← tagChars? true (c.rest.length + 1) (c.advanceBy 2)
      if suffix.isEmpty || !after.sees '>' then Option.none else some ([], suffix, after.advance)
    else do
      let (handle, after) ← tagHandle? c
      let (suffix, after) ← tagChars? false (c.rest.length + 1) after
      if 2 ≤ handle.length ∧ handle.getLast? = some '!' then
        if suffix.isEmpty then Option.none else some (handle, suffix, after)
      else
        let suffix := handle.drop 1 ++ suffix
        if suffix.isEmpty then some ([], ['!'], after) else some (['!'], suffix, after)
  if endsTag flow after then some (.tag (String.ofList handle) (String.ofList suffix), after) else Option.none

/-- A version number of at most nine digits. -/
def versionNumber? (c : Cursor) : Option (Nat × Cursor) :=
  let (digits, after) := c.takeWhile Char.isDigit
  if 9 < digits.length then Option.none else (Text.digitsValue? digits).map (·, after)

/-- What a version directive says. -/
def versionDirective? (c : Cursor) : Option (Token × Cursor) := do
  let (major, after) ← versionNumber? (c.dropWhile isBlank)
  if after.sees '.' then
    let (minor, after) ← versionNumber? after.advance
    some (.version major minor, after)
  else Option.none

/-- What a tag directive says. -/
def tagDirective? (c : Cursor) : Option (Token × Cursor) := do
  let (handle, after) ← tagHandle? (c.dropWhile isBlank)
  if (handle.getLast? != some '!') || !after.next isBlank then Option.none
  else
    let after := after.dropWhile isBlank
    let (start, after) ← tagChars? true (c.rest.length + 1) after
    if start.isEmpty || !after.blankAfter 0 then Option.none
    else some (.tagDirective (String.ofList handle) (String.ofList start), after)

/-- A directive after its first character, with the rest of its line. -/
def directive? (c : Cursor) : Option (Token × Cursor) := do
  let (name, after) := c.takeWhile isWordChar
  if name.isEmpty || !after.blankAfter 0 then Option.none
  else
    let (token, after) ←
      if name = "YAML".toList then versionDirective? after
      else if name = "TAG".toList then tagDirective? after
      else Option.none
    let after := after.skipComment
    if after.atEnd then some (token, after)
    else if after.next isBreak then some (token, after.advance)
    else Option.none

end Token
end Junction.Yaml
