namespace Exemplar.Unicode

/-- A run holds every `stride`-th code point from `first` to `last`, and `target` is the form of
the first one. -/
structure CaseRun where
  first : Nat
  last : Nat
  stride : Nat
  target : Nat

/-- The runs and the expansions of a case mapping are in ascending order and do not overlap. -/
structure CaseMapping where
  runs : List CaseRun
  expansions : List (Nat × List Nat)

/-- This function finds the form of a code point in the first run that does not end before it. -/
def CaseRun.find? : List CaseRun → Nat → Option Nat
  | [], _ => none
  | run :: later, code =>
      if run.last < code then
        CaseRun.find? later code
      else if run.first ≤ code ∧ (code - run.first) % run.stride = 0 then
        some (run.target + (code - run.first))
      else
        none

/-- This function finds the form of a code point that takes several characters. -/
def CaseMapping.findExpansion? : List (Nat × List Nat) → Nat → Option (List Nat)
  | [], _ => none
  | (source, form) :: later, code =>
      if source < code then
        CaseMapping.findExpansion? later code
      else if source = code then
        some form
      else
        none

/-- The form of a character without a case is the character itself. -/
def CaseMapping.form (mapping : CaseMapping) (character : Char) : List Char :=
  match CaseMapping.findExpansion? mapping.expansions character.toNat with
  | some form => form.map Char.ofNat
  | none =>
      match CaseRun.find? mapping.runs character.toNat with
      | some code => [Char.ofNat code]
      | none => [character]

end Exemplar.Unicode
