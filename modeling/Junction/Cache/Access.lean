import Junction.Cache.Store

/-!
What a gateway needs of a store of texts, whichever it is.
-/

namespace Junction.Cache

/-- What comes of asking a store for a key. -/
inductive Found where
  | hit (hit : Hit String)
  | miss
  | failed
deriving DecidableEq, Repr, Inhabited

/-- The operations of a store with states `σ`. A write that fails is one that changes nothing. -/
structure Access (σ : Type) where
  get : σ → (now : Nat) → (key : String) → σ × Found
  set : σ → (now : Nat) → (key : String) → (value : String) → (forMs : Nat) → σ
  del : σ → (key : String) → σ

namespace Access

/-- A hit, if there is one. -/
def found (hit : Option (Hit String)) : Found :=
  match hit with
  | some hit => .hit hit
  | none => .miss

/-- A store in memory. -/
def memory : Access (Store String) where
  get store now key := let (left, hit) := store.get now key; (left, found hit)
  set store now key value forMs := store.set now key value forMs
  del store key := store.del key

end Access
end Junction.Cache
