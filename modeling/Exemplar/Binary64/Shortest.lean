import Exemplar.Binary64.Rounding

/-
The shortest decimal number that reads back as a given binary64 number. Every number in an interval
around the given one reads back, and the interval holds its ends when the significand is even. The
search takes the coarsest decimal grid with a point in the interval and, of two such points, the
closer one. A tie goes to the even point.
-/

namespace Exemplar

/-- A decimal number is `digits * 10 ^ exponent`. -/
structure Decimal where
  digits : Nat
  exponent : Int
  deriving DecidableEq

namespace Binary64

/-- The interval of the numbers that read back has exact ends, counted in parts of `unit`. -/
structure Interval where
  low : Nat
  value : Nat
  high : Nat
  unit : Nat
  closed : Bool

/-- The lower end is closer when the significand is the least one of its exponent. -/
def interval (significand : Nat) (exponent : Int) : Interval :=
  let lowerGap :=
    if significand = significandBound / 2 ∧ leastExponent < exponent then 1 else 2
  let scale := power 2 (exponent - 2)
  { low := (4 * significand - lowerGap) * scale
    value := 4 * significand * scale
    high := (4 * significand + 2) * scale
    unit := power 2 (2 - exponent)
    closed := significand % 2 == 0 }

/-- This function counts the interval in steps of `10 ^ exponent`. -/
def Interval.onGrid (range : Interval) (exponent : Int) : Interval :=
  let finer := power 10 (-exponent)
  { range with
    low := range.low * finer
    value := range.value * finer
    high := range.high * finer
    unit := range.unit * power 10 exponent }

/-- This predicate holds when the point of the grid lies in the interval. -/
def Interval.holds (range : Interval) (point : Nat) : Bool :=
  let position := point * range.unit
  if range.closed then
    decide (range.low ≤ position ∧ position ≤ range.high)
  else
    decide (range.low < position ∧ position < range.high)

/-- The two neighbours of the value are the only points of the grid that are tried. -/
def Interval.closestPoint? (range : Interval) : Option Nat :=
  let below := range.value / range.unit
  let nearest := roundedQuotient range.value range.unit
  let farther := if nearest = below then below + 1 else below
  if range.holds nearest then some nearest
  else if range.holds farther then some farther
  else none

/-- The leading digit of a positive fraction stands for this power of ten. -/
def leadingExponent (numerator denominator : Nat) : Int :=
  if denominator ≤ numerator then
    (decimalLength (numerator / denominator) : Int) - 1
  else
    -(decimalLength ((denominator - 1) / numerator) : Int)

/-- This function tries finer and finer grids. Seventeen digits always suffice, so the last grid is
reached only by its nearest point. -/
def Interval.shortest (range : Interval) : Nat → Int → Decimal
  | 0, exponent =>
      let fine := range.onGrid exponent
      ⟨roundedQuotient fine.value fine.unit, exponent⟩
  | grids + 1, exponent =>
      match (range.onGrid exponent).closestPoint? with
      | some point => ⟨point, exponent⟩
      | none => range.shortest grids (exponent - 1)

/-- This function finds the shortest decimal number that reads back as a positive number. -/
def shortestDecimal (significand : Nat) (exponent : Int) : Decimal :=
  let range := interval significand exponent
  range.shortest 16 (leadingExponent range.value range.unit)

end Binary64

end Exemplar
