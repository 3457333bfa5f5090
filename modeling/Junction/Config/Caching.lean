import Junction.Config.Backend
import Junction.Config.Limits

/-!
Settings of the response cache, and what an endpoint overrides of them.
-/

namespace Junction.Config

/-- Numbers as an array. -/
def numbersJson (numbers : List Nat) : Json := .array (numbers.map Json.ofNat)

/-- Settings of the response cache. -/
structure Caching where
  enabled : Bool := false
  /-- How long a response is kept, in milliseconds. -/
  durationMs : Nat := 60000
  /-- The request headers whose values tell responses of one URL apart. -/
  strategyHeaders : List String := []
  onlyMethods : List String := ["GET"]
  /-- The statuses that are kept; all of them when the list is empty. -/
  onlyStatuses : List Nat := [200, 201, 202, 203, 204, 206]
  /-- Clients may ask not to be answered from the cache, or not to be kept in it. -/
  allowControl : Bool := true
deriving DecidableEq, Repr, Inhabited

namespace Caching

/-- The fields of cache settings. -/
def fields : List (Reader.Field Caching) :=
  [.field "enabled" Reader.flag fun found caching => { caching with enabled := found },
    .field "duration_ms" Reader.word fun found caching => { caching with durationMs := found },
    .field "strategy_headers" Backend.texts fun found caching => { caching with strategyHeaders := found },
    .field "only_if_methods" Backend.texts fun found caching => { caching with onlyMethods := found },
    .field "only_if_status_codes" (Reader.list Reader.status)
      fun found caching => { caching with onlyStatuses := found },
    .field "allow_cache_control" Reader.flag fun found caching => { caching with allowControl := found }]

/-- Cache settings; every field may be left out. -/
def read : Reader Caching := Reader.record fields {}

/-- Cache settings as an object. -/
def toJson (caching : Caching) : Json :=
  .object [("enabled", .bool caching.enabled), ("duration_ms", Json.ofNat caching.durationMs),
    ("strategy_headers", Backend.textsJson caching.strategyHeaders),
    ("only_if_methods", Backend.textsJson caching.onlyMethods),
    ("only_if_status_codes", numbersJson caching.onlyStatuses),
    ("allow_cache_control", .bool caching.allowControl)]

/-- Responses to a method are kept; the case of its letters does not count. -/
def allowsMethod (caching : Caching) (method : String) : Bool :=
  caching.onlyMethods.any (Text.sameIgnoringCase · method)

/-- Responses with a status are kept. -/
def allowsStatus (caching : Caching) (status : Nat) : Bool :=
  caching.onlyStatuses.isEmpty || caching.onlyStatuses.contains status

end Caching

/-- What an endpoint sets of its cache. -/
structure CachingOverride where
  enabled : Option Bool := none
  durationMs : Option Nat := none
  strategyHeaders : Option (List String) := none
  onlyMethods : Option (List String) := none
  onlyStatuses : Option (List Nat) := none
  allowControl : Option Bool := none
deriving DecidableEq, Repr, Inhabited

namespace CachingOverride

/-- The fields of an override. -/
def fields : List (Reader.Field CachingOverride) :=
  [.field "enabled" (Reader.optional Reader.flag) fun found own => { own with enabled := found },
    .field "duration_ms" (Reader.optional Reader.word) fun found own => { own with durationMs := found },
    .field "strategy_headers" (Reader.optional Backend.texts)
      fun found own => { own with strategyHeaders := found },
    .field "only_if_methods" (Reader.optional Backend.texts) fun found own => { own with onlyMethods := found },
    .field "only_if_status_codes" (Reader.optional (Reader.list Reader.status))
      fun found own => { own with onlyStatuses := found },
    .field "allow_cache_control" (Reader.optional Reader.flag) fun found own => { own with allowControl := found }]

/-- A boolean or null. -/
def flagOrNull : Option Bool → Json
  | some value => .bool value
  | none => .null

/-- An override as an object. -/
def toJson (own : CachingOverride) : Json :=
  .object [("enabled", flagOrNull own.enabled), ("duration_ms", numberOrNull own.durationMs),
    ("strategy_headers", (own.strategyHeaders.map Backend.textsJson).getD .null),
    ("only_if_methods", (own.onlyMethods.map Backend.textsJson).getD .null),
    ("only_if_status_codes", (own.onlyStatuses.map numbersJson).getD .null),
    ("allow_cache_control", flagOrNull own.allowControl)]

/-- Cache settings with what an override sets. -/
def applyTo (own : CachingOverride) (base : Caching) : Caching :=
  { enabled := own.enabled.getD base.enabled
    durationMs := own.durationMs.getD base.durationMs
    strategyHeaders := own.strategyHeaders.getD base.strategyHeaders
    onlyMethods := own.onlyMethods.getD base.onlyMethods
    onlyStatuses := own.onlyStatuses.getD base.onlyStatuses
    allowControl := own.allowControl.getD base.allowControl }

end CachingOverride
end Junction.Config
