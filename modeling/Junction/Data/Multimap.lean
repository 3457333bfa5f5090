import Junction.Data.Sorted

/-!
Maps from a string to one or more strings, in the order of the keys. A key without a value is not in the map.
-/

namespace Junction

/-- One or more strings. -/
structure Values where
  first : String
  rest : List String
deriving DecidableEq, Repr, Inhabited

namespace Values

/-- The only value. -/
def one (value : String) : Values := ⟨value, []⟩

/-- The values in order. -/
def toList (values : Values) : List String := values.first :: values.rest

/-- A value after all others. -/
def push (values : Values) (value : String) : Values := ⟨values.first, values.rest ++ [value]⟩

/-- A value after all others, unless it is among them. -/
def pushNew (values : Values) (value : String) : Values :=
  if values.toList.contains value then values else values.push value

/-- The values, then those of `more` that are not yet there, each once. -/
def union (values more : Values) : Values := more.toList.foldl pushNew values

/-- Each value once, at its first place. -/
def distinct (values : Values) : Values := union (one values.first) values

end Values

/-- Values under sorted keys. -/
structure Multimap where
  map : Sorted Values
deriving Inhabited

namespace Multimap

/-- No key has a value. -/
def empty : Multimap := ⟨.empty⟩

instance : EmptyCollection Multimap := ⟨empty⟩

/-- The keys with their values. -/
def entries (m : Multimap) : List (String × Values) := m.map.entries

/-- The values of a key, in order. -/
def getAll (m : Multimap) (key : String) : List String :=
  match m.map.get? key with
  | some values => values.toList
  | none => []

/-- The first value of a key. -/
def get? (m : Multimap) (key : String) : Option String := (m.map.get? key).map (·.first)

/-- The key has a value. -/
def contains (m : Multimap) (key : String) : Bool := m.map.contains key

/-- No key has a value. -/
def isEmpty (m : Multimap) : Bool := m.map.isEmpty

/-- The number of keys. -/
def size (m : Multimap) : Nat := m.map.size

/-- A value after those of the key. -/
def add (m : Multimap) (key value : String) : Multimap :=
  ⟨m.map.insert key ((m.map.get? key).elim (.one value) (·.push value))⟩

/-- A value after those of the key, if it has any. -/
def append (m : Multimap) (key value : String) : Multimap := if m.contains key then m.add key value else m

/-- A value instead of those of the key. -/
def set (m : Multimap) (key value : String) : Multimap := ⟨m.map.insert key (.one value)⟩

/-- A value instead of those of the key, if it has any. -/
def replace (m : Multimap) (key value : String) : Multimap := if m.contains key then m.set key value else m

/-- The key without values. -/
def delete (m : Multimap) (key : String) : Multimap := ⟨m.map.erase key⟩

/-- Only the keys that pass a test. -/
def filter (m : Multimap) (keep : String → Bool) : Multimap := ⟨m.map.filter fun key _ => keep key⟩

/-- The values of a key, then those of `more` that it does not have. -/
def union (m : Multimap) (key : String) (more : Values) : Multimap :=
  ⟨m.map.insert key ((m.map.get? key).elim more.distinct (·.union more))⟩

/-- The map of pairs, all values of a key in their order. -/
def ofPairs (pairs : List (String × String)) : Multimap :=
  pairs.foldl (fun m pair => m.add pair.1 pair.2) empty

/-- Every value with its key. -/
def pairs (m : Multimap) : List (String × String) :=
  m.entries.flatMap fun (key, values) => values.toList.map fun value => (key, value)

end Multimap
end Junction
