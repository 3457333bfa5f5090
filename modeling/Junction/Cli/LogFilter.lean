import Junction.Text.Cut

/-!
Which log messages are shown: directives give the level for targets that begin with a text, or for all.
-/

namespace Junction.Cli

/-- How much is shown, from nothing to everything. -/
inductive Level where
  | off
  | error
  | warn
  | info
  | debug
  | trace
deriving DecidableEq, Repr, Inhabited

namespace Level

/-- The position of a level. -/
def rank : Level → Nat
  | off => 0
  | error => 1
  | warn => 2
  | info => 3
  | debug => 4
  | trace => 5

/-- Every level with its name, by position. -/
def names : List (String × Level) :=
  [("OFF", off), ("ERROR", error), ("WARN", warn), ("INFO", info), ("DEBUG", debug), ("TRACE", trace)]

/-- The name of a level. -/
def name (level : Level) : String := ((names.find? fun entry => entry.2 == level).map (·.1)).getD ""

/-- The level of a text: a name in any case, a position, or the empty text for errors. -/
def ofText? (text : String) : Option Level :=
  if text.isEmpty then some error
  else match Text.word? text.toList with
    | some position => (names[position]?).map (·.2)
    | none => (names.find? fun entry => Text.sameIgnoringCase entry.1 text).map (·.2)

end Level

/-- The level for targets that begin with a text; the empty text stands for all targets. -/
structure Directive where
  target : String
  level : Level
deriving DecidableEq, Repr, Inhabited

namespace Directive

/-- A character of a target. -/
def isTargetChar (c : Char) : Bool := c.isAlphanum || c == '_' || c == ':' || c == '-'

/-- The directive of a text: a level, a target, or both with an equals sign between them. -/
def ofText? (text : String) : Option Directive :=
  match Text.split '=' text with
  | [single] =>
    match Level.ofText? single with
    | some level => some ⟨"", level⟩
    | none => if single.toList.all isTargetChar then some ⟨single, .trace⟩ else none
  | [target, level] =>
    if target.toList.all isTargetChar then (Level.ofText? level).map (⟨target, ·⟩) else none
  | _ => none

end Directive

/-- The directives of a filter. -/
abbrev LogFilter := List Directive

namespace LogFilter

/-- The directives of a text between commas, or none when one of them is no directive. -/
def ofText? (text : String) : Option LogFilter :=
  ((Text.split ',' text).filter fun part => !part.isEmpty).mapM Directive.ofText?

/-- The filter of a level that is configured for a target. -/
def ofLevel (target level : String) : LogFilter :=
  (Text.split ',' (target ++ "=" ++ level)).filterMap Directive.ofText?

/-- The filter of the environment, if it gives one that reads well, else that of a level for a target. -/
def choose (environment : Option String) (target level : String) : LogFilter :=
  (environment.bind ofText?).getD (ofLevel target level)

/-- The more specific of two directives; a later one of the same target counts. -/
def moreSpecific (best : Option Directive) (next : Directive) : Option Directive :=
  match best with
  | some current => if next.target.length < current.target.length then some current else some next
  | none => some next

/-- A message of a target and a level is shown. Errors are, when there is no directive at all. -/
def shows (filter : LogFilter) (target : String) (level : Level) : Bool :=
  if filter.isEmpty then level.rank ≤ Level.error.rank
  else
    match (filter.filter fun directive => Text.begins directive.target.toList target.toList).foldl
        moreSpecific none with
    | some directive => level.rank ≤ directive.level.rank
    | none => false

end LogFilter
end Junction.Cli
