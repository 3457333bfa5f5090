import Junction.Config.Setting
import Junction.Change.Action

/-!
Modifiers: rules that change one value of a request or a response.
-/

namespace Junction.Config

/-- What a modifier changes: the request to a backend, or its response. -/
inductive Scope where
  | request
  | response
deriving DecidableEq, Repr, Inhabited

/-- Every scope with its name. -/
def Scope.names : List (String × Scope) := [("REQUEST", .request), ("RESPONSE", .response)]

/-- The scope of a name. -/
def Scope.ofName? (name : String) : Option Scope := (names.find? fun entry => entry.1 == name).map (·.2)

/-- The name of a scope. -/
def Scope.name : Scope → String
  | request => "REQUEST"
  | response => "RESPONSE"

/-- The part of a message that a modifier changes. -/
inductive Surface where
  | header
  | params
  | query
  | body
deriving DecidableEq, Repr, Inhabited

/-- The name of a surface. -/
def Surface.name : Surface → String
  | header => "header"
  | params => "params"
  | query => "query"
  | body => "body"

/-- One rule: an action with a key and a value, which may hold placeholders. A request rule that propagates
changes the running request for all backends from this one on. -/
structure Modifier where
  scope : Scope
  action : Action
  key : String
  value : String
  propagate : Bool
deriving DecidableEq, Repr, Inhabited

/-- A rule whose action may not be known yet. -/
structure Modifier.Draft where
  scope : Scope := .request
  action : Option Action := none
  key : String := ""
  value : String := ""
  propagate : Bool := false

/-- The fields of a rule. -/
def Modifier.fields : List (Reader.Field Modifier.Draft) :=
  [.field "scope" (Reader.variant Scope.ofName?) fun found draft => { draft with scope := found },
    .field "action" (Reader.variant Action.ofName?) fun found draft => { draft with action := some found },
    .field "key" Reader.text fun found draft => { draft with key := found },
    .field "value" Reader.text fun found draft => { draft with value := found },
    .field "propagate" Reader.flag fun found draft => { draft with propagate := found }]

/-- A rule; its action must be given. -/
def Modifier.read : Reader Modifier := fun setting =>
  (Reader.record Modifier.fields {} setting).bind fun draft =>
    (Reader.ofOption draft.action).map fun action =>
      ⟨draft.scope, action, draft.key, draft.value, draft.propagate⟩

/-- A rule as an object. -/
def Modifier.toJson (modifier : Modifier) : Json :=
  .object [("scope", .text modifier.scope.name), ("action", .text modifier.action.name),
    ("key", .text modifier.key), ("value", .text modifier.value), ("propagate", .bool modifier.propagate)]

/-- The rules of a backend by surface. -/
structure Modifiers where
  header : List Modifier := []
  params : List Modifier := []
  query : List Modifier := []
  body : List Modifier := []
deriving DecidableEq, Repr, Inhabited

namespace Modifiers

/-- The fields of the rules. -/
def fields : List (Reader.Field Modifiers) :=
  [.field "header" (Reader.list Modifier.read) fun found all => { all with header := found },
    .field "params" (Reader.list Modifier.read) fun found all => { all with params := found },
    .field "query" (Reader.list Modifier.read) fun found all => { all with query := found },
    .field "body" (Reader.list Modifier.read) fun found all => { all with body := found }]

/-- The rules as an object. -/
def toJson (all : Modifiers) : Json :=
  .object [("header", .array (all.header.map (·.toJson))), ("params", .array (all.params.map (·.toJson))),
    ("query", .array (all.query.map (·.toJson))), ("body", .array (all.body.map (·.toJson)))]

/-- All rules with their surfaces, surface by surface. -/
def onSurfaces (all : Modifiers) : List (Surface × Modifier) :=
  all.header.map (Surface.header, ·) ++ all.params.map (Surface.params, ·) ++
    all.query.map (Surface.query, ·) ++ all.body.map (Surface.body, ·)

/-- The rules of a scope with their surfaces, surface by surface. -/
def inScope (all : Modifiers) (scope : Scope) : List (Surface × Modifier) :=
  all.onSurfaces.filter fun rule => rule.2.scope == scope

/-- The request rules that propagate, or those that do not. -/
def onRequest (all : Modifiers) (propagate : Bool) : List (Surface × Modifier) :=
  (all.inScope .request).filter fun rule => rule.2.propagate == propagate

end Modifiers
end Junction.Config
