import Junction.Number.Double
import Junction.Text.Cut

/-!
Doubles read from decimal text: digits with an optional sign, point and exponent, rounded to the nearest
number.
-/

namespace Junction.Double

/-- A sign, where there is one, and what follows it. -/
def signed (s : List Char) : Bool × List Char :=
  match s with
  | '-' :: rest => (true, rest)
  | '+' :: rest => (false, rest)
  | _ => (false, s)

/-- The value of an exponent after its letter. -/
def exponentValue? (s : List Char) : Option Int :=
  let (negative, digits) := signed s
  (Text.digitsValue? digits).map fun value => if negative then -(value : Int) else value

/-- The number nearest to `significand · 10 ^ power`, where the significand has `count` digits: none beyond
the greatest number, decided by the position of the digits when that is far off. -/
def ofDigits? (negative : Bool) (significand count : Nat) (power : Int) : Option Double :=
  if significand = 0 then some (zero negative)
  else if 400 < power then none
  else if power + count < -400 then some (zero negative)
  else ofDecimal? negative significand power

/-- The number that a text of digits denotes, with at least one digit before or after the point. -/
def read? (s : List Char) : Option Double :=
  let (negative, s) := signed s
  let whole := s.takeWhile Char.isDigit
  let s := s.drop whole.length
  let (fraction, s) := match s with
    | '.' :: rest => (rest.takeWhile Char.isDigit, rest.dropWhile Char.isDigit)
    | _ => ([], s)
  let digits := whole ++ fraction
  let exponent := match s with
    | [] => some 0
    | 'e' :: rest => exponentValue? rest
    | 'E' :: rest => exponentValue? rest
    | _ => none
  match Text.digitsValue? digits, exponent with
  | some significand, some exponent =>
    ofDigits? negative significand digits.length (exponent - fraction.length)
  | _, _ => none

end Junction.Double
