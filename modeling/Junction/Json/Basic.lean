import Junction.Data.Keyed
import Junction.Number.Double

/-!
JSON values. An object lists its fields in the order in which they were put; the text of a number is gone,
only its value remains.
-/

namespace Junction

/-- A JSON number: an integer of a signed or unsigned 64-bit word, or a binary64 number. -/
inductive Number where
  | int (value : Int)
  | double (value : Double)
deriving DecidableEq, Repr, Inhabited

/-- A JSON value. -/
inductive Json where
  | null
  | bool (value : Bool)
  | number (value : Number)
  | text (value : String)
  | array (items : List Json)
  | object (fields : List (String × Json))
deriving Inhabited

namespace Json

/-- An integer as a JSON value. -/
def ofInt (value : Int) : Json := .number (.int value)

/-- A natural number as a JSON value. -/
def ofNat (value : Nat) : Json := ofInt value

/-- A text, or null when there is none. -/
def textOrNull : Option String → Json
  | some value => .text value
  | none => .null

/-- The value is null. -/
def isNull : Json → Bool
  | .null => true
  | _ => false

/-- The value is an object. -/
def isObject : Json → Bool
  | .object _ => true
  | _ => false

/-- The text of a text value. -/
def asText? : Json → Option String
  | .text value => some value
  | _ => none

/-- A natural number no larger than an unsigned 64-bit word. -/
def asWord? : Json → Option Nat
  | .number (.int value) => if 0 ≤ value then some value.natAbs else none
  | _ => none

/-- Structural equality; the two zeros of a double differ. -/
def same : Json → Json → Bool
  | .null, .null => true
  | .bool a, .bool b => a == b
  | .number a, .number b => a == b
  | .text a, .text b => a == b
  | .array a, .array b => sameItems a b
  | .object a, .object b => sameFields a b
  | _, _ => false
where
  /-- Structural equality of item lists. -/
  sameItems : List Json → List Json → Bool
    | [], [] => true
    | a :: as, b :: bs => same a b && sameItems as bs
    | _, _ => false
  /-- Structural equality of field lists, order included. -/
  sameFields : List (String × Json) → List (String × Json) → Bool
    | [], [] => true
    | (ka, a) :: as, (kb, b) :: bs => ka == kb && same a b && sameFields as bs
    | _, _ => false

end Json
end Junction
