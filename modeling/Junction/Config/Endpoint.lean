import Junction.Config.Caching
import Junction.Json.KeyCase
import Junction.Message.Format

/-!
Endpoints: a method and a path template, the backends behind them, and how the final response is shaped.
-/

namespace Junction.Config

/-- How the final response of an endpoint is shaped. -/
structure Finish where
  /-- Several bodies become one object rather than a list. -/
  aggregate : Bool := false
  encode : Option Format := none
  keyCase : Option Json.KeyCase := none
  omitEmpty : Bool := false
deriving DecidableEq, Repr, Inhabited

/-- The fields of a finish. -/
def Finish.fields : List (Reader.Field Finish) :=
  [.field "aggregate" Reader.flag fun found finish => { finish with aggregate := found },
    .field "encode" (Reader.optional (Reader.variant Format.ofName?))
      fun found finish => { finish with encode := found },
    .field "nomenclature" (Reader.optional (Reader.variant Json.KeyCase.ofName?))
      fun found finish => { finish with keyCase := found },
    .field "omit_empty" Reader.flag fun found finish => { finish with omitEmpty := found }]

/-- A finish as an object. -/
def Finish.toJson (finish : Finish) : Json :=
  .object [("aggregate", .bool finish.aggregate), ("encode", Json.textOrNull (finish.encode.map (·.name))),
    ("nomenclature", Json.textOrNull (finish.keyCase.map (·.name))), ("omit_empty", .bool finish.omitEmpty)]

/-- The settings that hold for an endpoint. -/
structure Effective where
  timeoutMs : Nat := 30000
  limits : Limits := {}
  caching : Caching := {}
  /-- The number of backends that are expected to answer. -/
  backendCount : Nat := 0
deriving DecidableEq, Repr, Inhabited

/-- An endpoint. -/
structure Endpoint where
  path : String := "/"
  method : String := "GET"
  timeoutMs : Option Nat := none
  limits : LimitsOverride := {}
  caching : CachingOverride := {}
  /-- The backend statuses that end a run; without a list all from 400 on. -/
  abortStatuses : Option (List Nat) := none
  /-- The names of the middlewares before the backends. -/
  beforewares : List String := []
  /-- The names of the middlewares after the backends. -/
  afterwares : List String := []
  backends : List Backend := []
  response : Finish := {}
  effective : Effective := {}
deriving DecidableEq, Repr, Inhabited

namespace Endpoint

/-- The fields of an endpoint that a configuration gives. -/
def fields : List (Reader.Field Endpoint) :=
  [.field "path" Reader.text fun found endpoint => { endpoint with path := found },
    .field "method" Reader.text fun found endpoint => { endpoint with method := found },
    .field "timeout_ms" (Reader.optional Reader.word) fun found endpoint => { endpoint with timeoutMs := found },
    .field "limiter" (Reader.record LimitsOverride.fields {}) fun found endpoint => { endpoint with limits := found },
    .field "cache" (Reader.record CachingOverride.fields {}) fun found endpoint => { endpoint with caching := found },
    .field "abort_if_status_codes" (Reader.optional (Reader.list Reader.status))
      fun found endpoint => { endpoint with abortStatuses := found },
    .field "beforewares" Backend.texts fun found endpoint => { endpoint with beforewares := found },
    .field "afterwares" Backend.texts fun found endpoint => { endpoint with afterwares := found },
    .field "backends" (Reader.list Backend.read) fun found endpoint => { endpoint with backends := found },
    .field "response" (Reader.record Finish.fields {}) fun found endpoint => { endpoint with response := found }]

/-- An endpoint; every field may be left out. -/
def read : Reader Endpoint := Reader.record fields {}

/-- An endpoint as an object, without the settings that hold for it. -/
def toJson (endpoint : Endpoint) : Json :=
  .object [("path", .text endpoint.path), ("method", .text endpoint.method),
    ("timeout_ms", numberOrNull endpoint.timeoutMs), ("limiter", endpoint.limits.toJson),
    ("cache", endpoint.caching.toJson),
    ("abort_if_status_codes", (endpoint.abortStatuses.map numbersJson).getD .null),
    ("beforewares", Backend.textsJson endpoint.beforewares),
    ("afterwares", Backend.textsJson endpoint.afterwares),
    ("backends", .array (endpoint.backends.map (·.toJson))), ("response", endpoint.response.toJson)]

/-- A backend status ends a run. -/
def aborts (endpoint : Endpoint) (status : Nat) : Bool :=
  match endpoint.abortStatuses with
  | some statuses => statuses.contains status
  | none => 400 ≤ status

/-- Method and path, which tell endpoints apart. -/
def id (endpoint : Endpoint) : String := Text.upperAscii endpoint.method ++ " " ++ endpoint.path

end Endpoint
end Junction.Config
