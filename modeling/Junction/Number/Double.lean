/-!
Finite binary64 numbers in exact arithmetic: rounding a quotient to the nearest number, the products and
quotients of numbers, and the fewest decimal digits that read back.
-/

namespace Junction

/-- A finite binary64 number, `± mantissa · 2 ^ exponent`. The mantissa is below `2 ^ 53`, and at least
`2 ^ 52` unless the exponent is the least one, `-1074`. -/
structure Double where
  negative : Bool
  mantissa : Nat
  exponent : Int
deriving DecidableEq, Repr, Inhabited

namespace Double

/-- The least exponent. -/
def leastExponent : Int := -1074

/-- The greatest exponent. -/
def greatestExponent : Int := 971

/-- Zero with a sign. -/
def zero (negative : Bool) : Double := ⟨negative, 0, leastExponent⟩

/-- The number is zero, of either sign. -/
def isZero (x : Double) : Bool := x.mantissa == 0

/-- The quotient rounded to the nearest integer, a tie to the even one. -/
def roundQuotient (num den : Nat) : Nat :=
  let quotient := num / den
  let twice := 2 * (num % den)
  if twice < den ∨ (twice = den ∧ quotient % 2 = 0) then quotient else quotient + 1

/-- Numerator and denominator of `num / den · 2 ^ -exponent`. -/
def scaled (num den : Nat) (exponent : Int) : Nat × Nat :=
  if exponent < 0 then (num * Nat.pow 2 exponent.natAbs, den) else (num, den * Nat.pow 2 exponent.natAbs)

/-- The exponent at which the integer part of `num / den` has 53 binary digits, and no less than the
least one. -/
def exponentOf (num den : Nat) : Int :=
  let low : Int := (num.log2 : Int) - (den.log2 : Int) - 53
  let (n, d) := scaled num den low
  max leastExponent (if n / d < Nat.pow 2 53 then low else low + 1)

/-- The number nearest to the quotient `num / den`, a tie going to the even mantissa; none when it lies
beyond the greatest number. -/
def ofQuotient? (negative : Bool) (num den : Nat) : Option Double :=
  if num = 0 then some (zero negative)
  else
    let exponent := exponentOf num den
    let (n, d) := scaled num den exponent
    let mantissa := roundQuotient n d
    let rounded : Double :=
      if mantissa = Nat.pow 2 53 then ⟨negative, Nat.pow 2 52, exponent + 1⟩ else ⟨negative, mantissa, exponent⟩
    if greatestExponent < rounded.exponent then none else some rounded

/-- Numerator and denominator of the absolute value. -/
def ratio (x : Double) : Nat × Nat :=
  if x.exponent < 0 then (x.mantissa, Nat.pow 2 x.exponent.natAbs) else (x.mantissa * Nat.pow 2 x.exponent.natAbs, 1)

/-- The product of absolute values, rounded; none beyond the greatest number. -/
def times? (x y : Double) : Option Double :=
  let (a, b) := x.ratio
  let (c, d) := y.ratio
  ofQuotient? false (a * c) (b * d)

/-- The quotient of absolute values, rounded; the divisor is not zero. -/
def over? (x y : Double) : Option Double :=
  let (a, b) := x.ratio
  let (c, d) := y.ratio
  ofQuotient? false (a * d) (b * c)

/-- The same number with the given sign. -/
def withSign (negative : Bool) (x : Double) : Double := ⟨negative, x.mantissa, x.exponent⟩

/-- The number nearest to `significand · 10 ^ power`. -/
def ofDecimal? (negative : Bool) (significand : Nat) (power : Int) : Option Double :=
  if power < 0 then ofQuotient? negative significand (Nat.pow 10 power.natAbs)
  else ofQuotient? negative (significand * Nat.pow 10 power.natAbs) 1

/-- Numerators of the two ends of the interval of reals that round to the number, over one denominator. -/
def interval (x : Double) : Nat × Nat × Nat :=
  let m := x.mantissa
  let low := if m = Nat.pow 2 52 ∧ leastExponent < x.exponent then 4 * m - 1 else 4 * m - 2
  let high := 4 * m + 2
  if x.exponent < 2 then (low, high, Nat.pow 2 (2 - x.exponent).natAbs)
  else (low * Nat.pow 2 (x.exponent - 2).natAbs, high * Nat.pow 2 (x.exponent - 2).natAbs, 1)

/-- Whether `digits · 10 ^ power` lies in the interval; its ends count when the mantissa is even. -/
def readsBack (x : Double) (digits : Nat) (power : Int) : Bool :=
  let (low, high, den) := x.interval
  let (n, d) := if power < 0 then (digits, Nat.pow 10 power.natAbs) else (digits * Nat.pow 10 power.natAbs, 1)
  if x.mantissa % 2 = 0 then low * d ≤ n * den && n * den ≤ high * d
  else low * d < n * den && n * den < high * d

/-- The largest power of ten at or below a positive quotient. -/
def magnitude (num den : Nat) : Int :=
  let atLeast (power : Int) : Bool :=
    if power < 0 then den ≤ num * Nat.pow 10 power.natAbs else den * Nat.pow 10 power.natAbs ≤ num
  let start := ((num.log2 : Int) - (den.log2 : Int)) * 30103 / 100000 - 1
  if atLeast (start + 2) then start + 2
  else if atLeast (start + 1) then start + 1
  else if atLeast start then start
  else start - 1

/-- The decimal of `count` digits closest to the number, if it reads back: of the two neighbours on the
grid the one that reads back, of two the nearer, and of equally near ones the even one. -/
def decimalOf? (x : Double) (count : Nat) : Option (Nat × Int) :=
  let (num, den) := x.ratio
  let power := magnitude num den + 1 - (count : Int)
  let (n, d) := if power < 0 then (num * Nat.pow 10 power.natAbs, den) else (num, den * Nat.pow 10 power.natAbs)
  let below := n / d
  let near := roundQuotient n d
  let far := if near = below then below + 1 else below
  if x.readsBack near power then some (near, power)
  else if x.readsBack far power then some (far, power)
  else none

/-- The digits and the power of ten of the shortest decimal that reads back, among up to `left` more digit
counts from `count` on. -/
def shortestFrom (x : Double) (count : Nat) : (left : Nat) → Nat × Int
  | 0 => (x.decimalOf? 17).getD (0, 0)
  | left + 1 =>
    match x.decimalOf? count with
    | some found => found
    | none => shortestFrom x (count + 1) left

/-- Trailing zeros of the digits counted in the power instead, at most `left` of them. -/
def withoutZeros (digits : Nat) (power : Int) : (left : Nat) → Nat × Int
  | 0 => (digits, power)
  | left + 1 =>
    if digits % 10 = 0 then withoutZeros (digits / 10) (power + 1) left else (digits, power)

/-- The fewest decimal digits that read back as the number, without trailing zeros, and their power of ten;
the number is not zero. -/
def shortest (x : Double) : Nat × Int :=
  let (digits, power) := x.shortestFrom 1 17
  withoutZeros digits power 17

/-- How a format writes doubles: the mark between digits and a positive exponent. -/
structure Style where
  positiveExponent : String

/-- Zeros. -/
def zeros (count : Nat) : String := String.ofList (List.replicate count '0')

/-- The text of a number: positional from `10⁻⁵` up to below `10¹⁶`, always with a fraction; otherwise one
digit before the point and an exponent, without a fraction when there is one digit. -/
def render (style : Style) (x : Double) : String :=
  let sign := if x.negative then "-" else ""
  if x.isZero then sign ++ "0.0"
  else
    let (digits, power) := x.shortest
    let text := toString digits
    let point : Int := text.length + power
    if 0 ≤ power ∧ point ≤ 16 then sign ++ text ++ zeros power.natAbs ++ ".0"
    else if 0 < point ∧ point ≤ 16 then
      let chars := text.toList
      sign ++ String.ofList (chars.take point.natAbs) ++ "." ++ String.ofList (chars.drop point.natAbs)
    else if -5 < point ∧ point ≤ 0 then sign ++ "0." ++ zeros point.natAbs ++ text
    else
      let exponent := point - 1
      let mark := if exponent < 0 then "e-" else "e" ++ style.positiveExponent
      let chars := text.toList
      let fraction := if chars.length = 1 then "" else "." ++ String.ofList (chars.drop 1)
      sign ++ String.ofList (chars.take 1) ++ fraction ++ mark ++ toString exponent.natAbs

end Double
end Junction
