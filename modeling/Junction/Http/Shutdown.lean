/-!
The signal that tells all parts of a server to stop.
-/

namespace Junction.Http

/-- The receivers of the signal, oldest first: whether a signal has come since each was last looked at. -/
structure Shutdown where
  receivers : List Bool := []
deriving DecidableEq, Repr, Inhabited

namespace Shutdown

/-- The number of receivers. -/
def count (shutdown : Shutdown) : Nat := shutdown.receivers.length

/-- One more receiver, which sees only signals to come. -/
def subscribe (shutdown : Shutdown) : Shutdown := ⟨shutdown.receivers ++ [false]⟩

/-- Without the newest receiver. -/
def drop (shutdown : Shutdown) : Shutdown := ⟨shutdown.receivers.dropLast⟩

/-- The signal, to every receiver. -/
def trigger (shutdown : Shutdown) : Shutdown := ⟨shutdown.receivers.map fun _ => true⟩

/-- Every receiver is looked at. -/
def look (shutdown : Shutdown) : Shutdown := ⟨shutdown.receivers.map fun _ => false⟩

end Shutdown
end Junction.Http
