namespace Exemplar.Unicode

/-- A set of code points lists its closed ranges in ascending order. -/
abbrev CodePointSet := List (Nat × Nat)

/-- The code point belongs to the set when the first range that does not end before it holds it. -/
def CodePointSet.contains : CodePointSet → Nat → Bool
  | [], _ => false
  | (first, last) :: later, code =>
      if last < code then CodePointSet.contains later code else decide (first ≤ code)

end Exemplar.Unicode
