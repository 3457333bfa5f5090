import Junction.Json.Basic
import Junction.Number.Reading

/-!
What a plain scalar denotes: null, a boolean, a number, or its text.
-/

namespace Junction.Yaml

/-- What a plain scalar denotes. -/
inductive Scalar where
  | null
  | bool (value : Bool)
  | int (value : Int)
  /-- An integer beyond the 64-bit words, within the 128-bit ones. -/
  | largeInt
  | double (value : Double)
  /-- An infinity or a number that is none. -/
  | notFinite
  | text
deriving DecidableEq, Repr, Inhabited

namespace Scalar

/-- The value of a null. -/
def isNull (s : String) : Bool := s == "null" || s == "Null" || s == "NULL" || s == "~"

/-- The value of a boolean. -/
def bool? (s : String) : Option Bool :=
  if s == "true" || s == "True" || s == "TRUE" then some true
  else if s == "false" || s == "False" || s == "FALSE" then some false
  else none

/-- The text without one leading sign of the given ones. -/
def unsigned (signs s : List Char) : List Char :=
  match s with
  | c :: rest => if signs.contains c then rest else s
  | [] => []

/-- A zero before further digits, and nothing else: no number. -/
def isPaddedDigits (s : List Char) : Bool :=
  match unsigned ['-', '+'] s with
  | '0' :: c :: rest => (c :: rest).all Char.isDigit
  | _ => false

/-- Digits in one of the bases that a zero and a letter announce. -/
def based? (s : List Char) : Option Nat :=
  match s with
  | '0' :: 'x' :: digits => Text.valueInBase? 16 digits
  | '0' :: 'o' :: digits => Text.valueInBase? 8 digits
  | '0' :: 'b' :: digits => Text.valueInBase? 2 digits
  | _ => none

/-- A natural number with an optional plus sign, no larger than `limit`. -/
def natural? (limit : Nat) (s : List Char) : Option Nat :=
  let digits := unsigned ['+'] s
  let inRange (value : Nat) : Option Nat := if value ≤ limit then some value else none
  match (based? digits).bind inRange with
  | some value => some value
  | none => if isPaddedDigits s then none else (Text.digitsValue? digits).bind inRange

/-- A negative integer, its absolute value no larger than `limit`. -/
def negative? (limit : Nat) (s : List Char) : Option Int :=
  match s with
  | '-' :: digits =>
    let inRange (value : Nat) : Option Int := if value ≤ limit then some (-(value : Int)) else none
    match (based? digits).bind inRange with
    | some value => some value
    | none => if isPaddedDigits s then none else (Text.digitsValue? digits).bind inRange
  | _ => none

/-- An integer of a signed or unsigned 64-bit word. -/
def word? (s : List Char) : Option Int :=
  match natural? Text.wordLimit s with
  | some value => some value
  | none => negative? Text.signedLimit s

/-- An integer of a signed or unsigned 128-bit word. -/
def isLargeInt (s : List Char) : Bool :=
  (natural? 340282366920938463463374607431768211455 s).isSome ||
    (negative? 170141183460469231731687303715884105728 s).isSome

/-- The spellings of the values that are no finite number. -/
def notFiniteNames : List String :=
  [".inf", ".Inf", ".INF", "+.inf", "+.Inf", "+.INF", "-.inf", "-.Inf", "-.INF", ".nan", ".NaN", ".NAN"]

/-- A double with an optional sign. -/
def double? (s : List Char) : Option Double :=
  match s with
  | '+' :: c :: rest => if c = '+' ∨ c = '-' then none else Double.read? (c :: rest)
  | _ => Double.read? s

/-- What a double denotes, one that is not finite included. -/
def ofDouble? (s : String) : Option Scalar :=
  if notFiniteNames.contains s then some notFinite else (double? s.toList).map double

/-- What an integer denotes. -/
def ofInt? (s : String) : Option Scalar :=
  match word? s.toList with
  | some value => some (int value)
  | none => if isLargeInt s.toList then some largeInt else none

/-- What a plain scalar denotes. -/
def ofText (s : String) : Scalar :=
  if s.isEmpty || isNull s then null
  else match bool? s with
    | some value => bool value
    | none =>
      match ofInt? s with
      | some found => found
      | none => if isPaddedDigits s.toList then text else (ofDouble? s).getD text

end Scalar
end Junction.Yaml
