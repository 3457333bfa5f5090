import Junction.Config.Endpoint
import Junction.Exchange.Failure
import Junction.Route.Template

/-!
The table of routes: which endpoint answers a method and a path. The most specific template comes first, and
the order of the configuration decides among equals.
-/

namespace Junction.Route

/-- A template with a method, in upper case, and the position of its endpoint. -/
structure Row where
  template : Template
  method : String
  endpoint : Nat
deriving DecidableEq, Repr, Inhabited

/-- A route that has been found. -/
structure Match where
  endpoint : Nat
  params : Params
deriving Inhabited

/-- Routes in the order in which they are tried. -/
structure Table where
  rows : List Row
deriving Inhabited

namespace Table

/-- The route of an endpoint at a position. -/
def row (endpoint : Config.Endpoint) (position : Nat) : Row :=
  ⟨.ofText endpoint.path, Text.upperAscii endpoint.method, position⟩

/-- The routes of endpoints. -/
def ofEndpoints (endpoints : List Config.Endpoint) : Table :=
  ⟨(endpoints.mapIdx fun position endpoint => row endpoint position).mergeSort
    fun first second => second.template.rank ≤ first.template.rank⟩

/-- The number of routes. -/
def size (table : Table) : Nat := table.rows.length

/-- The routes whose templates match a path, with the parameters they take from it. -/
def matching (table : Table) (path : String) : List (Row × Params) :=
  table.rows.filterMap fun row => (row.template.match? path).map (row, ·)

/-- The first route for a method and a path. A path that only other methods have is told from one that no
method has. -/
def lookup (table : Table) (method path : String) : Except Failure Match :=
  let found := table.matching path
  match found.find? fun candidate => Text.sameIgnoringCase candidate.1.method method with
  | some (row, params) => .ok ⟨row.endpoint, params⟩
  | none => .error (if found.isEmpty then .notFound path else .methodNotAllowed method path)

end Table
end Junction.Route
