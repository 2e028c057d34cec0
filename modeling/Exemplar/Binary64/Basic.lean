namespace Exemplar

/-- A binary64 number is finite, infinite or not a number. Zero has a sign too. -/
inductive Binary64 where
  | finite (negative : Bool) (significand : Nat) (exponent : Int)
  | infinite (negative : Bool)
  | nan
  deriving DecidableEq

namespace Binary64

/-- This is the exponent of the numbers closest to zero. -/
def leastExponent : Int := -1074

/-- This is the exponent of the largest finite numbers. -/
def greatestExponent : Int := 971

/-- A significand below this bound has at most 53 binary digits. -/
def significandBound : Nat := Nat.pow 2 53

/-- A fraction writes a power with a negative exponent on its other side, so here it counts as
one. -/
def power (base : Nat) (exponent : Int) : Nat :=
  Nat.pow base exponent.toNat

/-- Both zeros count as zero. -/
def isZero : Binary64 → Bool
  | .finite _ significand _ => significand == 0
  | _ => false

/-- A number is integral when it is finite and has no fractional part. -/
def isIntegral : Binary64 → Bool
  | .finite _ significand exponent => significand % power 2 (-exponent) == 0
  | _ => false

end Binary64

end Exemplar
