namespace Exemplar

/-- A set of names lists them in ascending order. -/
abbrev NameSet := List String

namespace NameSet

/-- This function adds a name at its place in the order. -/
def insert (name : String) : NameSet → NameSet
  | [] => [name]
  | first :: rest =>
      if name < first then name :: first :: rest
      else if name = first then first :: rest
      else first :: insert name rest

def ofList (names : List String) : NameSet :=
  names.foldr insert []

/-- The names of the set are those added to it. -/
theorem mem_insert {name added : String} {set : NameSet} :
    name ∈ insert added set ↔ name = added ∨ name ∈ set := by
  induction set with
  | nil => simp [insert]
  | cons first rest inductionHypothesis =>
    unfold insert
    split
    · simp
    · split
      · next same => simp [same]
      · simp only [List.mem_cons, inductionHypothesis]
        exact or_left_comm

/-- The set of a list has the names of the list. -/
theorem mem_ofList {name : String} {names : List String} :
    name ∈ ofList names ↔ name ∈ names := by
  induction names with
  | nil => simp [ofList]
  | cons first rest inductionHypothesis =>
    rw [List.mem_cons, ← inductionHypothesis]
    exact mem_insert

end NameSet

end Exemplar
