import Junction.Json.Printer

/-!
Paths into a JSON value: names after dots and names or indices in brackets, as in `items[0].id`. A segment
that reads as a number addresses an item of an array and a field of an object.
-/

namespace Junction.Json

/-- One step of a path. -/
inductive Segment where
  | key (name : String)
  | index (position : Nat)
deriving DecidableEq, Repr, Inhabited

namespace Segment

/-- The field that the segment addresses in an object. -/
def name : Segment → String
  | key name => name
  | index position => toString position

/-- The item that the segment addresses in an array. -/
def position? : Segment → Option Nat
  | key name => Text.word? name.toList
  | index position => some position

/-- The container that a segment opens where there is nothing yet. -/
def container : Segment → Json
  | key _ => .object []
  | index _ => .array []

end Segment

/-- A list of steps from the root of a value. -/
abbrev Path := List Segment

namespace Path

/-- The place of a scan: in a name outside brackets, or inside brackets. -/
inductive Scan where
  | dotted (name : List Char)
  | bracketed (inner : List Char)

/-- A name outside brackets as a segment, if it is not empty. -/
def dottedSegment (name : List Char) : Path :=
  if name.isEmpty then [] else [.key (String.ofList name)]

/-- A quote of either kind. -/
def isQuote (c : Char) : Bool := c == '\x22' || c == '\''

/-- The text without quotes at its ends. -/
def unquoted (inner : List Char) : List Char :=
  (((inner.dropWhile isQuote).reverse).dropWhile isQuote).reverse

/-- The content of brackets as a segment: an index when it reads as a word, else a name if not empty. -/
def bracketedSegment (inner : List Char) : Path :=
  let inner := unquoted inner
  match Text.word? inner with
  | some position => [.index position]
  | none => if inner.isEmpty then [] else [.key (String.ofList inner)]

/-- The segments of the rest of a path. -/
def segments : Scan → List Char → Path
  | .dotted name, [] => dottedSegment name
  | .dotted name, c :: rest =>
    if c = '.' then dottedSegment name ++ segments (.dotted []) rest
    else if c = '[' then dottedSegment name ++ segments (.bracketed []) rest
    else segments (.dotted (name ++ [c])) rest
  | .bracketed inner, [] => bracketedSegment inner
  | .bracketed inner, c :: rest =>
    if c = ']' then bracketedSegment inner ++ segments (.dotted []) rest
    else segments (.bracketed (inner ++ [c])) rest

/-- A text without a start, if it begins with it. -/
def without (start s : List Char) : List Char := (Text.after? start s).getD s

/-- The segments of a path; a leading `$.` or `$` stands for the root. -/
def ofText (path : String) : Path :=
  segments (.dotted []) (without ['$'] (without ['$', '.'] (Text.trimmed path.toList)))

end Path
end Junction.Json
