import Junction.Data.Multimap
import Junction.Json.Basic
import Junction.Change.Action
import Junction.Url.Form

/-!
The query of a request: names, whose case counts, each with one or more values.
-/

namespace Junction

/-- The query of a request. -/
structure Query where
  values : Multimap
deriving Inhabited

namespace Query

/-- No name has a value. -/
def empty : Query := ⟨.empty⟩

instance : EmptyCollection Query := ⟨empty⟩

/-- The query that a text encodes. -/
def ofText (text : String) : Query := ⟨.ofPairs (Url.decodeForm text)⟩

/-- The text of a query, in the order of the names. -/
def encode (query : Query) : String := Url.encodeForm query.values.pairs

/-- The first value of a name. -/
def get? (query : Query) (name : String) : Option String := query.values.get? name

/-- The values of a name. -/
def getAll (query : Query) (name : String) : List String := query.values.getAll name

/-- The name has a value. -/
def contains (query : Query) (name : String) : Bool := query.values.contains name

/-- No name has a value. -/
def isEmpty (query : Query) : Bool := query.values.isEmpty

/-- A value added to a name. -/
def add (query : Query) (name value : String) : Query := ⟨query.values.add name value⟩

/-- A value added to a name that has one. -/
def append (query : Query) (name value : String) : Query := ⟨query.values.append name value⟩

/-- A name with one value. -/
def set (query : Query) (name value : String) : Query := ⟨query.values.set name value⟩

/-- A name that has a value, with another one. -/
def replace (query : Query) (name value : String) : Query := ⟨query.values.replace name value⟩

/-- The query without a name. -/
def delete (query : Query) (name : String) : Query := ⟨query.values.delete name⟩

/-- One action on a name; without a key nothing happens. -/
def modify (query : Query) (action : Action) (key value : String) : Query :=
  if key.isEmpty then query
  else match action with
    | .add => query.add key value
    | .append => query.append key value
    | .set => query.set key value
    | .replace => query.replace key value
    | .delete => query.delete key

/-- Only the listed names; a star lists all. -/
def filter (query : Query) (names : List String) : Query :=
  if names.contains "*" then query else ⟨query.values.filter names.contains⟩

/-- The names as an object of arrays. -/
def toJson (query : Query) : Json :=
  .object (query.values.entries.map fun (name, values) => (name, .array (values.toList.map .text)))

end Query
end Junction
