import Junction.Json.Basic
import Junction.Text.Cut

/-!
Numbers as JSON text writes them, and their values. A number without fraction and exponent that fits a
64-bit word is an integer. Of every other number the leading digits that fit a 64-bit word are kept, rounded
to a double, and multiplied or divided by a rounded power of ten; the rest of the digits only count.
-/

namespace Junction.Json

/-- The exponent of a number: its sign and its digits. -/
structure Exponent where
  negative : Bool
  digits : List Nat
deriving Repr, Inhabited

/-- A number as it is written. -/
structure Decimal where
  negative : Bool
  whole : List Nat
  /-- The digits after the point, if there is one. -/
  fraction : Option (List Nat)
  exponent : Option Exponent
deriving Repr, Inhabited

namespace Decimal

/-- The digits a text starts with, and what follows them. -/
def digits (s : List Char) : List Nat × List Char :=
  ((s.takeWhile Char.isDigit).map (fun c => c.toNat - 48), s.dropWhile Char.isDigit)

/-- At least one digit, and what follows. -/
def someDigits? (s : List Char) : Option (List Nat × List Char) :=
  match digits s with
  | ([], _) => none
  | found => some found

/-- The exponent after its letter. -/
def exponentAfter? (s : List Char) : Option (Exponent × List Char) :=
  match s with
  | '-' :: rest => (someDigits? rest).map fun (found, rest) => (⟨true, found⟩, rest)
  | '+' :: rest => (someDigits? rest).map fun (found, rest) => (⟨false, found⟩, rest)
  | _ => (someDigits? s).map fun (found, rest) => (⟨false, found⟩, rest)

/-- An exponent where there is its letter; the outer option fails when the letter has no digits. -/
def exponent? (s : List Char) : Option (Option Exponent × List Char) :=
  match s with
  | 'e' :: rest => (exponentAfter? rest).map fun (found, rest) => (some found, rest)
  | 'E' :: rest => (exponentAfter? rest).map fun (found, rest) => (some found, rest)
  | _ => some (none, s)

/-- A fraction where there is a point; the outer option fails when the point has no digits. -/
def fraction? (s : List Char) : Option (Option (List Nat) × List Char) :=
  match s with
  | '.' :: rest => (someDigits? rest).map fun (found, rest) => (some found, rest)
  | _ => some (none, s)

/-- The digits before the point: a single zero, or digits that do not start with one. -/
def whole? (s : List Char) : Option (List Nat × List Char) :=
  match someDigits? s with
  | some (0 :: _ :: _, _) => none
  | found => found

/-- The number a text starts with, and what follows it. -/
def read? (s : List Char) : Option (Decimal × List Char) :=
  let (negative, s) := match s with
    | '-' :: rest => (true, rest)
    | _ => (false, s)
  (whole? s).bind fun (whole, s) =>
  (fraction? s).bind fun (fraction, s) =>
  (exponent? s).map fun (exponent, s) => (⟨negative, whole, fraction, exponent⟩, s)

/-- The digits that fit a word after `value`, and the number of digits left over. -/
def gather (value : Nat) : List Nat → Nat × Nat
  | [] => (value, 0)
  | digit :: rest =>
    if 10 * value + digit ≤ Text.wordLimit then gather (10 * value + digit) rest
    else (value, rest.length + 1)

/-- The value of digits. -/
def valueOf (found : List Nat) : Nat := found.foldl (fun value digit => 10 * value + digit) 0

/-- The largest exponent that is counted, that of a signed 32-bit word. -/
def exponentLimit : Nat := 2147483647

/-- A rounded power of ten, at most the 308th. -/
def powerOfTen (power : Nat) : Double := (Double.ofDecimal? false 1 power).getD default

/-- A double divided by the 308th power of ten as long as the negative exponent exceeds 308 and the double
is not zero, then by the power that is left; four steps reach zero from any word. -/
def lowered (x : Double) (power : Nat) : (steps : Nat) → Option Double
  | 0 => some (Double.zero false)
  | steps + 1 =>
    if power ≤ 308 then x.over? (powerOfTen power)
    else if x.isZero then some x
    else (x.over? (powerOfTen 308)).bind fun x => lowered x (power - 308) steps

/-- The double of `significand · 10 ^ power`; none when it is out of range. -/
def scaled? (significand : Nat) (power : Int) : Option Double :=
  (Double.ofDecimal? false significand 0).bind fun x =>
    if power < 0 then lowered x power.natAbs 4
    else if power ≤ 308 then x.times? (powerOfTen power.natAbs)
    else if x.isZero then some x
    else none

/-- The value of a number that is written with a fraction, with an exponent, or beyond the words. -/
def double? (number : Decimal) : Option Double :=
  let (wholePart, skipped) := gather 0 number.whole
  let fraction := number.fraction.getD []
  let (significand, ignored) := gather wholePart fraction
  let power : Int := (skipped : Int) - ((fraction.length - ignored : Nat) : Int)
  let magnitude := match number.exponent with
    | none => scaled? significand power
    | some exponent =>
      let value := valueOf exponent.digits
      if exponentLimit < value then
        if significand = 0 ∨ exponent.negative then some (Double.zero false) else none
      else scaled? significand (if exponent.negative then power - value else power + value)
  magnitude.map (Double.withSign number.negative)

/-- The value of a number; none when it is out of range. -/
def value? (number : Decimal) : Option Number :=
  if number.fraction.isNone && number.exponent.isNone then
    let value := valueOf number.whole
    if number.negative then
      if value ≠ 0 ∧ value ≤ Text.signedLimit then some (.int (-value)) else number.double?.map .double
    else if value ≤ Text.wordLimit then some (.int value) else number.double?.map .double
  else number.double?.map .double

end Decimal
end Junction.Json
