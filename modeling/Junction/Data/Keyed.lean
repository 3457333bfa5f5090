/-!
Lists of entries under names, in the order in which the names were first put. The functions keep the names
distinct when they are distinct before.
-/

namespace Junction.Keyed

variable {α : Type}

/-- The value of the first entry with the name. -/
def get? (name : String) : List (String × α) → Option α
  | [] => none
  | (key, value) :: rest => if key = name then some value else get? name rest

/-- An entry with the name is listed. -/
def contains (name : String) (entries : List (String × α)) : Bool := (get? name entries).isSome

/-- The value of the name becomes `value`: at its place when the name is listed, in a last entry when not. -/
def put (name : String) (value : α) : List (String × α) → List (String × α)
  | [] => [(name, value)]
  | (key, old) :: rest => if key = name then (key, value) :: rest else (key, old) :: put name value rest

/-- The first entry with the name removed. -/
def erase (name : String) : List (String × α) → List (String × α)
  | [] => []
  | (key, old) :: rest => if key = name then rest else (key, old) :: erase name rest

/-- Entries put one after another: the first place and the last value of every name. -/
def ofList (entries : List (String × α)) : List (String × α) :=
  entries.foldl (fun kept entry => put entry.1 entry.2 kept) []

end Junction.Keyed
