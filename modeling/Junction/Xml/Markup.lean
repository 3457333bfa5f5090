import Junction.Xml.Escape
import Junction.Text.Utf8

/-!
XML text as a list of tags and texts. Comments, processing instructions and the document type are passed
over. Bytes that are not UTF-8 stand in the text by their numbers, between two marks that occur nowhere else;
they are allowed in names and character data, where they read as U+FFFD, and refused in texts and attribute
values.
-/

namespace Junction.Xml

/-- A tag or a text. -/
inductive Markup where
  /-- An opening tag: its name and its attributes. -/
  | opening (name : String) (attributes : List (String × String))
  /-- A tag that opens and closes an element. -/
  | closed (name : String) (attributes : List (String × String))
  | closing (name : String)
  | text (value : String)
deriving DecidableEq, Repr, Inhabited

namespace Markup

/-- The four characters of white space. -/
def isSpace (c : Char) : Bool := c == ' ' || c == '\t' || c == '\n' || c == '\r'

/-- The text without white space at its end. -/
def withoutEnd (s : List Char) : List Char := (s.reverse.dropWhile isSpace).reverse

/-- A text with one U+FFFD for what stands between two marks. -/
def replaced (mark : Char) : (inside : Bool) → List Char → List Char
  | _, [] => []
  | true, c :: rest => if c = mark then replaced mark false rest else replaced mark true rest
  | false, c :: rest =>
    if c = mark then Text.replacement :: replaced mark true rest else c :: replaced mark false rest

/-- A name or character data, with U+FFFD for bytes that are not UTF-8. -/
def lossy (mark : Option Char) (s : List Char) : String :=
  String.ofList (mark.elim s fun mark => replaced mark false s)

/-- A text or attribute value with its entities resolved. -/
def strict? (mark : Option Char) (s : List Char) : Option String :=
  if (mark.map s.contains).getD false then none else (unescaped? s).map String.ofList

/-- The position of a scan through a tag. -/
inductive Within where
  | outside
  | quoted (quote : Char)

/-- The text up to the bracket that ends a tag, and what follows; a bracket in quotes ends nothing. -/
def tagEnd? : Within → List Char → Option (List Char × List Char)
  | _, [] => none
  | .outside, c :: rest =>
    if c = '>' then some ([], rest)
    else
      let state := if c = '\'' ∨ c = '\x22' then Within.quoted c else .outside
      (tagEnd? state rest).map fun (inner, rest) => (c :: inner, rest)
  | .quoted quote, c :: rest =>
    let state := if c = quote then Within.outside else .quoted quote
    (tagEnd? state rest).map fun (inner, rest) => (c :: inner, rest)

/-- The text up to the first place where `ending` begins, and what follows that ending. -/
def upTo? (ending : List Char) : List Char → Option (List Char × List Char)
  | [] => none
  | c :: rest =>
    match Text.after? ending (c :: rest) with
    | some rest => some ([], rest)
    | none => (upTo? ending rest).map fun (inner, rest) => (c :: inner, rest)

/-- What follows the bracket that ends a document type, which may hold bracketed declarations. -/
def balanced? : (depth : Nat) → List Char → Option (List Char × List Char)
  | _, [] => none
  | 0, '>' :: rest => some ([], rest)
  | depth + 1, '>' :: rest => (balanced? depth rest).map fun (inner, rest) => ('>' :: inner, rest)
  | depth, '<' :: rest => (balanced? (depth + 1) rest).map fun (inner, rest) => ('<' :: inner, rest)
  | depth, c :: rest => (balanced? depth rest).map fun (inner, rest) => (c :: inner, rest)

/-- The attributes of a tag after its name: names, equals signs and quoted values, no name twice. -/
def attributes? (mark : Option Char) : (fuel : Nat) → (seen : List (List Char)) → List Char →
    Option (List (String × String))
  | 0, _, _ => none
  | fuel + 1, seen, s =>
    match s.dropWhile isSpace with
    | [] => some []
    | c :: rest =>
      let more := rest.takeWhile fun c => !(c == '=' || isSpace c)
      let name := c :: more
      match (rest.drop more.length).dropWhile isSpace with
      | '=' :: rest =>
        if seen.contains name then none
        else match rest.dropWhile isSpace with
          | quote :: rest =>
            if quote = '\'' ∨ quote = '\x22' then
              let value := rest.takeWhile (· != quote)
              match rest.drop value.length with
              | _ :: rest =>
                (strict? mark value).bind fun value =>
                  (attributes? mark fuel (name :: seen) rest).map ((lossy mark name, value) :: ·)
              | [] => none
            else none
          | [] => none
      | _ => none

/-- The name and the attributes of a tag. -/
def tag? (mark : Option Char) (inner : List Char) : Option (String × List (String × String)) :=
  let name := inner.takeWhile (fun c => !isSpace c)
  (attributes? mark (inner.length + 1) [] (inner.drop name.length)).map (lossy mark name, ·)

/-- The name that an opening tag has in the stack of names: as it is written. -/
def nameOf (inner : List Char) : List Char := inner.takeWhile fun c => !isSpace c

/-- What follows an opening bracket: the markup, if it is not passed over, and the rest of the text. The
names of the open elements change with it. -/
def bracketed? (mark : Option Char) (names : List (List Char)) (s : List Char) :
    Option (List Markup × List (List Char) × List Char) :=
  match s with
  | '!' :: '-' :: rest =>
    match rest with
    | '-' :: rest => (upTo? ['-', '-', '>'] rest).map fun (_, rest) => ([], names, rest)
    | _ => none
  | '!' :: '[' :: rest =>
    (Text.after? "CDATA[".toList rest).bind fun rest =>
      (upTo? [']', ']', '>'] rest).map fun (inner, rest) => ([.text (lossy mark inner)], names, rest)
  | '!' :: rest =>
    if (rest.take 7).map Char.toUpper = "DOCTYPE".toList then
      (balanced? 0 (rest.drop 7)).bind fun (inner, rest) =>
        if inner.all isSpace then none else some ([], names, rest)
    else none
  | '?' :: '>' :: _ => none
  | '?' :: rest => (upTo? ['?', '>'] rest).map fun (_, rest) => ([], names, rest)
  | '/' :: rest =>
    (tagEnd? .outside rest).bind fun (inner, rest) =>
      let name := if inner.all isSpace then inner else withoutEnd inner
      match names with
      | [] => none
      | expected :: names =>
        if name = expected then some ([.closing (lossy mark name)], names, rest) else none
  | [] => none
  | s =>
    (tagEnd? .outside s).bind fun (inner, rest) =>
      if inner.getLast? = some '/' then
        (tag? mark inner.dropLast).map fun (name, attributes) => ([.closed name attributes], names, rest)
      else
        (tag? mark inner).map fun (name, attributes) =>
          ([.opening name attributes], nameOf inner :: names, rest)

/-- The text before a tag or the end, if it is more than white space. -/
def texts? (mark : Option Char) (s : List Char) : Option (List Markup) :=
  let shown := withoutEnd s
  if shown.isEmpty then some [] else (strict? mark shown).map fun value => [.text value]

/-- The markup of a text below open elements. White space around texts is left out. -/
def read? (mark : Option Char) : (fuel : Nat) → (names : List (List Char)) → List Char →
    Option (List Markup)
  | 0, _, _ => none
  | fuel + 1, names, s =>
    let s := s.dropWhile isSpace
    (texts? mark (s.takeWhile (· != '<'))).bind fun before =>
      match s.dropWhile (· != '<') with
      | [] => some before
      | _ :: rest =>
        (bracketed? mark names rest).bind fun (markup, names, rest) =>
          (read? mark fuel names rest).map (before ++ markup ++ ·)

/-- A character from U+E000 on that does not occur in the text. -/
def unused (s : List Char) : (tries code : Nat) → Char
  | 0, code => Char.ofNat code
  | tries + 1, code => if s.contains (Char.ofNat code) then unused s tries (code + 1) else Char.ofNat code

/-- The characters of bytes. Those that are no UTF-8 stand there by their numbers, between two marks. -/
def characters (mark : Char) : List UInt8 → List Char
  | [] => []
  | lead :: rest =>
    let (unit, extra) := Text.firstUnit lead rest
    let shown := match unit with
      | some c => [c]
      | none => mark :: (Text.hexOfBytes (lead :: rest.take extra)).toList ++ [mark]
    shown ++ characters mark (rest.drop extra)
termination_by bytes => bytes.length
decreasing_by simp only [List.length_drop, List.length_cons]; omega

/-- The byte order mark at the start of a text left out. -/
def withoutMark : List Char → List Char
  | [] => []
  | c :: rest => if c.toNat = 0xFEFF then rest else c :: rest

/-- The markup of bytes; none when they are no well-formed XML, unclosed elements apart. -/
def ofBytes? (bytes : ByteArray) : Option (List Markup) :=
  match String.fromUTF8? bytes with
  | some valid =>
    let s := withoutMark valid.toList
    read? none (s.length + 1) [] s
  | none =>
    let units := Text.units bytes.toList
    let mark := unused (units.filterMap id) units.length 0xE000
    let s := withoutMark (characters mark bytes.toList)
    read? (some mark) (s.length + 1) [] s

end Markup
end Junction.Xml
