import Junction.Data.Sorted

/-!
A store in memory of values that expire. Expired values go when they are asked for, and all of them every so
many writes. Times are in milliseconds.
-/

namespace Junction.Cache

/-- A value and the time from which it is expired. -/
structure Slot (α : Type) where
  value : α
  expires : Nat
deriving DecidableEq, Repr, Inhabited

/-- A value that has not expired, and how long it has left. -/
structure Hit (α : Type) where
  value : α
  remainingMs : Nat
deriving DecidableEq, Repr, Inhabited

/-- A store and the number of writes to it. -/
structure Store (α : Type) where
  slots : Sorted (Slot α) := ∅
  writes : Nat := 0
deriving Inhabited

namespace Store

variable {α : Type}

/-- The number of writes from one removal of expired values to the next. -/
def sweepEvery : Nat := 256

/-- The number of values, expired ones included. -/
def size (store : Store α) : Nat := store.slots.size

/-- The store without the values that are expired. -/
def purge (store : Store α) (now : Nat) : Store α :=
  { store with slots := store.slots.filter fun _ slot => now < slot.expires }

/-- The value of a key, and the store without it if it is expired. -/
def get (store : Store α) (now : Nat) (key : String) : Store α × Option (Hit α) :=
  match store.slots.get? key with
  | none => (store, none)
  | some slot =>
    if now < slot.expires then (store, some ⟨slot.value, slot.expires - now⟩)
    else ({ store with slots := store.slots.erase key }, none)

/-- The store with one more write counted, which may remove what is expired. -/
def countWrite (store : Store α) (now : Nat) : Store α :=
  let counted := { store with writes := store.writes + 1 }
  if counted.writes % sweepEvery = 0 then counted.purge now else counted

/-- The store with a value for some time; for no time at all nothing is kept. -/
def set (store : Store α) (now : Nat) (key : String) (value : α) (forMs : Nat) : Store α :=
  if forMs = 0 then store
  else
    let counted := store.countWrite now
    { counted with slots := counted.slots.insert key ⟨value, now + forMs⟩ }

/-- The store without a key. -/
def del (store : Store α) (key : String) : Store α := { store with slots := store.slots.erase key }

end Store
end Junction.Cache
