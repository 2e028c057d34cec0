import Exemplar.Binary64.Shortest

namespace Exemplar.Binary64

def trimZeros (digits : List Char) : List Char :=
  (digits.reverse.dropWhile (· == '0')).reverse

/-- This function writes the digits around a point. The exponent belongs to the first digit. -/
def positional (digits : List Char) (exponent : Int) : List Char :=
  if exponent < 0 then
    '0' :: '.' :: (List.replicate (-exponent - 1).toNat '0' ++ digits)
  else
    let whole := exponent.toNat + 1
    let fraction := digits.drop whole
    digits.take whole ++ List.replicate (whole - digits.length) '0' ++
      '.' :: (if fraction.isEmpty then ['0'] else fraction)

/-- This function writes an exponent with its sign and at least two digits. -/
def exponentText (exponent : Int) : List Char :=
  let digits := Nat.toDigits 10 exponent.natAbs
  let padding := List.replicate (2 - digits.length) '0'
  'e' :: (if exponent < 0 then '-' else '+') :: (padding ++ digits)

/-- This function writes the digits with an exponent. A single digit has no point after it. -/
def scientific (digits : List Char) (exponent : Int) : List Char :=
  match digits with
  | [] => []
  | first :: rest =>
      first :: ((if rest.isEmpty then [] else '.' :: rest) ++ exponentText exponent)

/-- This function writes a decimal number. Small exponents leave the point in place. -/
def decimalText (decimal : Decimal) : List Char :=
  let digits := Nat.toDigits 10 decimal.digits
  let exponent := decimal.exponent + digits.length - 1
  let significant := trimZeros digits
  if -4 ≤ exponent ∧ exponent < 16 then
    positional significant exponent
  else
    scientific significant exponent

/-- This function writes a number so that it reads back. -/
def text : Binary64 → String
  | .nan => "nan"
  | .infinite false => "inf"
  | .infinite true => "-inf"
  | .finite negative significand exponent =>
      let magnitude :=
        if significand = 0 then ['0', '.', '0']
        else decimalText (shortestDecimal significand exponent)
      String.ofList (if negative then '-' :: magnitude else magnitude)

end Exemplar.Binary64
