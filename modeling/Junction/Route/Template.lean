import Junction.Message.Params

/-!
Path templates, and the parameters they take from a path. Empty segments do not count, in templates and in
paths.
-/

namespace Junction.Route

/-- A path template. -/
structure Template where
  text : String
  segments : List Segment
deriving DecidableEq, Repr, Inhabited

namespace Template

/-- The template of a text. -/
def ofText (text : String) : Template := ⟨text, (parts text).map Segment.ofText⟩

/-- The number of literal segments. -/
def literals (template : Template) : Nat := template.segments.countP Segment.isLiteral

/-- Some segment takes the rest of a path. -/
def hasWildcard (template : Template) : Bool := template.segments.any Segment.isWildcard

/-- A template is more specific the more literal segments it has, and among equals without a wildcard. -/
def rank (template : Template) : Nat := 2 * template.literals + if template.hasWildcard then 0 else 1

/-- The parameters that segments take from the parts of a path, put to those before. -/
def matchParts : List Segment → List (List Char) → Params → Option Params
  | [], [], params => some params
  | [], _ :: _, _ => none
  | .wildcard name :: _, parts, params =>
    some (if name.isEmpty then params else params.set name (String.ofList (Text.joined '/' parts)))
  | .literal text :: segments, part :: parts, params =>
    if text.toList = part then matchParts segments parts params else none
  | .param name :: segments, part :: parts, params =>
    matchParts segments parts (params.set name (String.ofList part))
  | _ :: _, [], _ => none

/-- The parameters that a template takes from a path, if it matches. -/
def match? (template : Template) (path : String) : Option Params :=
  matchParts template.segments (parts path) ∅

end Template
end Junction.Route
