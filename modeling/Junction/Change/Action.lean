/-!
The five ways in which a modifier changes what is under a key.
-/

namespace Junction

/-- What a modifier does with the value under its key. -/
inductive Action where
  /-- Set when absent, extend when present. -/
  | add
  /-- Extend when present. -/
  | append
  | set
  /-- Set when present. -/
  | replace
  | delete
deriving DecidableEq, Repr, Inhabited

namespace Action

/-- Every spelling of an action; of each action the first one is its name. -/
def names : List (String × Action) :=
  [("ADD", add), ("APD", append), ("SET", set), ("RPL", replace), ("DEL", delete), ("APPEND", append),
    ("REPLACE", replace), ("DELETE", delete)]

/-- The action of a spelling. -/
def ofName? (name : String) : Option Action := (names.find? fun entry => entry.1 == name).map (·.2)

/-- The name of an action. -/
def name : Action → String
  | add => "ADD"
  | append => "APD"
  | set => "SET"
  | replace => "RPL"
  | delete => "DEL"

end Action
end Junction
