import Exemplar.Binary64.Basic

namespace Exemplar

/-- This function divides and rounds to the nearest integer. A tie goes to the even one. -/
def roundedQuotient (numerator denominator : Nat) : Nat :=
  let quotient := numerator / denominator
  let doubled := 2 * (numerator % denominator)
  if denominator < doubled ∨ (doubled = denominator ∧ quotient % 2 = 1) then
    quotient + 1
  else
    quotient

/-- This function counts the decimal digits of a number. Zero has none. -/
def decimalLength (value : Nat) : Nat :=
  if value = 0 then 0 else (Nat.toDigits 10 value).length

namespace Binary64

/-- This function divides a fraction by a power of two and rounds the result. -/
def roundedAt (exponent : Int) (numerator denominator : Nat) : Nat :=
  roundedQuotient (numerator * power 2 (-exponent)) (denominator * power 2 exponent)

/-- The exponent leaves 53 binary digits before the point, if it is in range. The logarithms of
numerator and denominator leave two candidates. -/
def exponentOf (numerator denominator : Nat) : Int :=
  let low : Int := (numerator.log2 : Int) - denominator.log2 - 53
  let quotient :=
    (numerator * power 2 (-low)) / (denominator * power 2 low)
  max leastExponent (if quotient < significandBound then low else low + 1)

/-- This function rounds a positive fraction. A significand that grows to 2 ^ 53 takes the next
exponent, and a number beyond the largest exponent becomes infinite. -/
def ofFraction (negative : Bool) (numerator denominator : Nat) : Binary64 :=
  let exponent := exponentOf numerator denominator
  let significand := roundedAt exponent numerator denominator
  let carried := significand = significandBound
  let finalExponent := if carried then exponent + 1 else exponent
  if greatestExponent < finalExponent then
    .infinite negative
  else
    .finite negative (if carried then significand / 2 else significand) finalExponent

/-- This function rounds `digits * 10 ^ exponent`. The decimal length decides the numbers whose
exponent is out of reach, so the powers of ten stay small. -/
def ofDecimal (negative : Bool) (digits : Nat) (exponent : Int) : Binary64 :=
  let magnitude := (decimalLength digits : Int) + exponent
  if digits = 0 ∨ magnitude < -330 then
    .finite negative 0 leastExponent
  else if 330 < magnitude then
    .infinite negative
  else
    ofFraction negative (digits * power 10 exponent) (power 10 (-exponent))

end Binary64

end Exemplar
