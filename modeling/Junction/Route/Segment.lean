import Junction.Text.Cut

/-!
The segments of path templates: literal text, one named segment, or the named rest of a path.
-/

namespace Junction.Route

/-- A segment of a template. -/
inductive Segment where
  | literal (text : String)
  | param (name : String)
  /-- The rest of the path, which may be empty; without a name it is not kept. -/
  | wildcard (name : String)
deriving DecidableEq, Repr, Inhabited

namespace Segment

/-- The name between braces. -/
def braced? (text : List Char) : Option (List Char) :=
  match text with
  | '\x7b' :: rest => if rest.getLast? = some '\x7d' then some rest.dropLast else none
  | _ => none

/-- The segment of a text: a name after a colon or in braces, a wildcard after a star, else literal. -/
def ofText (text : List Char) : Segment :=
  match text with
  | ':' :: name => .param (String.ofList name)
  | '*' :: name => .wildcard (String.ofList name)
  | _ =>
    match braced? text with
    | some name => .param (String.ofList name)
    | none => .literal (String.ofList text)

/-- The name of a parameter or a wildcard. -/
def name? : Segment → Option String
  | literal _ => none
  | param name => some name
  | wildcard name => some name

/-- The segment is literal. -/
def isLiteral : Segment → Bool
  | literal _ => true
  | _ => false

/-- The segment takes the rest of a path. -/
def isWildcard : Segment → Bool
  | wildcard _ => true
  | _ => false

end Segment

/-- The parts of a path between slashes, without empty ones. -/
def parts (path : String) : List (List Char) := (Text.pieces '/' path.toList).filter fun part => !part.isEmpty

end Junction.Route
