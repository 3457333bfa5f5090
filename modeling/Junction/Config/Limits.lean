import Junction.Config.Setting

/-!
Limits on the size and the rate of requests, and what an endpoint overrides of them.
-/

namespace Junction.Config

/-- A number or null. -/
def numberOrNull : Option Nat → Json
  | some value => Json.ofNat value
  | none => .null

/-- How many requests may come in one period. -/
structure Rate where
  /-- The number of requests; zero sets no limit. -/
  capacity : Nat := 0
  /-- The length of the period in milliseconds. -/
  everyMs : Nat := 1000
deriving DecidableEq, Repr, Inhabited

/-- The fields of a rate. -/
def Rate.fields : List (Reader.Field Rate) :=
  [.field "capacity" (Reader.upTo 4294967295) fun found rate => { rate with capacity := found },
    .field "every_ms" Reader.word fun found rate => { rate with everyMs := found }]

/-- A rate; every field may be left out. -/
def Rate.read : Reader Rate := Reader.record fields {}

/-- A rate as an object. -/
def Rate.toJson (rate : Rate) : Json :=
  .object [("capacity", Json.ofNat rate.capacity), ("every_ms", Json.ofNat rate.everyMs)]

/-- The limits of an endpoint. -/
structure Limits where
  /-- The greatest size of all headers, in bytes. -/
  maxHeaderSize : Nat := 1048576
  /-- The greatest size of the body, in bytes. -/
  maxBodySize : Nat := 3145728
  rate : Rate := {}
deriving DecidableEq, Repr, Inhabited

/-- The fields of limits. -/
def Limits.fields : List (Reader.Field Limits) :=
  [.field "max_header_size" Reader.word fun found limits => { limits with maxHeaderSize := found },
    .field "max_body_size" Reader.word fun found limits => { limits with maxBodySize := found },
    .field "rate" Rate.read fun found limits => { limits with rate := found }]

/-- Limits; every field may be left out. -/
def Limits.read : Reader Limits := Reader.record fields {}

/-- Limits as an object. -/
def Limits.toJson (limits : Limits) : Json :=
  .object [("max_header_size", Json.ofNat limits.maxHeaderSize),
    ("max_body_size", Json.ofNat limits.maxBodySize), ("rate", limits.rate.toJson)]

/-- What an endpoint sets of its limits. -/
structure LimitsOverride where
  maxHeaderSize : Option Nat := none
  maxBodySize : Option Nat := none
  rate : Option Rate := none
deriving DecidableEq, Repr, Inhabited

namespace LimitsOverride

/-- The fields of an override. -/
def fields : List (Reader.Field LimitsOverride) :=
  [.field "max_header_size" (Reader.optional Reader.word) fun found own => { own with maxHeaderSize := found },
    .field "max_body_size" (Reader.optional Reader.word) fun found own => { own with maxBodySize := found },
    .field "rate" (Reader.optional Rate.read) fun found own => { own with rate := found }]

/-- An override as an object. -/
def toJson (own : LimitsOverride) : Json :=
  .object [("max_header_size", numberOrNull own.maxHeaderSize), ("max_body_size", numberOrNull own.maxBodySize),
    ("rate", (own.rate.map (·.toJson)).getD .null)]

/-- Limits with what an override sets. -/
def applyTo (own : LimitsOverride) (base : Limits) : Limits :=
  { maxHeaderSize := own.maxHeaderSize.getD base.maxHeaderSize
    maxBodySize := own.maxBodySize.getD base.maxBodySize
    rate := own.rate.getD base.rate }

end LimitsOverride
end Junction.Config
