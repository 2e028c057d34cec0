import Exemplar.Model.NameSet
import Mathlib.Data.List.Sort
import Mathlib.Data.String.Basic

namespace Exemplar.NameSet

/-- Adding a name keeps the names in ascending order. -/
theorem pairwise_insert {name : String} {set : NameSet} (ascending : set.Pairwise (· < ·)) :
    (insert name set).Pairwise (· < ·) := by
  induction set with
  | nil => exact List.pairwise_singleton _ _
  | cons first rest inductionHypothesis =>
      obtain ⟨below, restAscending⟩ := List.pairwise_cons.mp ascending
      unfold insert
      split
      next before =>
        refine List.pairwise_cons.mpr ⟨?_, ascending⟩
        intro other member
        rcases List.mem_cons.mp member with rfl | later
        · exact before
        · exact before.trans (below other later)
      next notBefore =>
        split
        · exact ascending
        next different =>
          refine List.pairwise_cons.mpr ⟨?_, inductionHypothesis restAscending⟩
          intro other member
          rcases mem_insert.mp member with rfl | later
          · exact lt_of_le_of_ne (not_lt.mp notBefore) (Ne.symm different)
          · exact below other later

/-- A set of names lists them in ascending order, and so each of them once. -/
theorem pairwise_ofList (names : List String) : (ofList names).Pairwise (· < ·) := by
  induction names with
  | nil => exact List.Pairwise.nil
  | cons first rest inductionHypothesis => exact pairwise_insert inductionHypothesis

theorem ofList_congr {names others : List String} (same : ∀ name, name ∈ names ↔ name ∈ others) :
    ofList names = ofList others := by
  apply (pairwise_ofList names).eq_of_mem_iff (pairwise_ofList others)
  intro name
  rw [mem_ofList, mem_ofList, same]

theorem foldl_insert (names : List String) :
    names.foldl (fun set name => insert name set) [] = ofList names := by
  rw [List.foldl_eq_foldr_reverse]
  exact ofList_congr fun name => List.mem_reverse

end Exemplar.NameSet
