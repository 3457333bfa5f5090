import Junction.Exchange.Failure

/-!
Work under supervision.
-/

namespace Junction.Http

/-- The result of work that is given some time: work that takes at least that long has timed out, and work
without a result has broken down. -/
def supervise {α : Type} (limitMs tookMs : Nat) (result : Option α) : Except Failure α :=
  if limitMs ≤ tookMs then .error .timedOut
  else match result with
    | some value => .ok value
    | none => .error .brokeDown

end Junction.Http
