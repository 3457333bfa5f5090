/-!
What becomes of a change that fails.
-/

namespace Junction.Change

/-- Keep the value as it was, or end the run with an error. -/
inductive Policy where
  | failOpen
  | failClosed
deriving DecidableEq, Repr, Inhabited

namespace Policy

/-- Every policy with its name. -/
def names : List (String × Policy) := [("fail-open", failOpen), ("fail-closed", failClosed)]

/-- The policy of a name. -/
def ofName? (name : String) : Option Policy := (names.find? fun entry => entry.1 == name).map (·.2)

/-- The name of a policy. -/
def name : Policy → String
  | failOpen => "fail-open"
  | failClosed => "fail-closed"

/-- The result of a change; a failed one leaves what was there before, or stays an error. -/
def recover {α ε : Type} (policy : Policy) (result : Except ε α) (before : α) : Except ε α :=
  match result, policy with
  | .ok value, _ => .ok value
  | .error _, .failOpen => .ok before
  | .error error, .failClosed => .error error

end Policy
end Junction.Change
