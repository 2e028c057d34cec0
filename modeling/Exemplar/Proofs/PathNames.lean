import Exemplar.Proofs.ChildPaths

namespace Exemplar

namespace Path

/-- A path ends in a name when the name stands behind its last slash. -/
structure EndsIn (path name : String) : Prop where
  isName : IsName name
  behind : ∃ before, path = before ++ "/" ++ name

/-- What stands before a path does not change the name at its end. -/
theorem EndsIn.append {path name : String} (ends : EndsIn path name) (front : String) :
    EndsIn (front ++ path) name := by
  obtain ⟨isName, before, rfl⟩ := ends
  exact ⟨isName, front ++ before, by simp only [String.append_assoc]⟩

/-- The name at the end of a path is the last of its components. -/
theorem EndsIn.components {path name : String} (ends : EndsIn path name) :
    ∃ earlier, components path = earlier ++ [name] := by
  obtain ⟨isName, before, rfl⟩ := ends
  exact ⟨Path.components before, by
    rw [components_append_slash, components_of_unslashed isName.unslashed]⟩

/-- A path ends in one name at most. -/
theorem EndsIn.eq {path first second : String} (endsFirst : EndsIn path first)
    (endsSecond : EndsIn path second) : first = second := by
  obtain ⟨earlierFirst, partsFirst⟩ := endsFirst.components
  obtain ⟨earlierSecond, partsSecond⟩ := endsSecond.components
  have last := congrArg List.getLast? (partsFirst.symm.trans partsSecond)
  simpa using last

/-- A path that is written from components ends in the last of them. -/
theorem endsIn_absolute (earlier : List String) {name : String} (isName : IsName name) :
    EndsIn (absolute (earlier ++ [name])) name := by
  by_cases first : earlier = []
  · exact ⟨isName, "", by simp [absolute, first]⟩
  · refine ⟨isName, absolute earlier, ?_⟩
    rw [absolute, absolute, String.intercalate_append_of_ne_nil first (List.cons_ne_nil name []),
      String.intercalate_singleton]
    simp only [String.append_assoc]

/-- A path that is put behind a directory goes on with its components that are not idle. -/
theorem exists_join_eq (directory path : String) :
    ∃ front, join directory path =
      front ++ absolute ((components path).filter fun component => !isIdle component) := by
  have rooted : root path = "/" ∨ root path = "/" ++ "/" := by
    rw [root]
    split
    · exact .inl rfl
    · exact .inr rfl
    · exact .inl rfl
  rw [join, absolute]
  split
  · rcases rooted with one | two
    · exact ⟨"", by rw [one, String.empty_append]⟩
    · exact ⟨"/", by rw [two, String.append_assoc]⟩
  · split
    next isRoot => exact ⟨"", by rw [isRoot, String.empty_append]⟩
    next => exact ⟨directory, by rw [String.append_assoc]⟩

/-- A file name with a suffix that ends it is the name at the end of a path behind a directory
exactly when it has no slash. -/
theorem exists_endsIn_join {fileName suffix : String} (ends : EndsName suffix)
    (directory : String) :
    ∃ name, EndsIn (join directory (fileName ++ suffix)) name ∧
      (name = fileName ++ suffix ↔ '/' ∉ fileName.toList) := by
  obtain ⟨last, unslashed, parts⟩ := components_append fileName ends.unslashed
  have isName := ends.isName_append unslashed
  obtain ⟨front, joined⟩ := exists_join_eq directory (fileName ++ suffix)
  refine ⟨last ++ suffix, ?_, ?_⟩
  · rw [joined, parts, List.filter_append]
    have busy : [last ++ suffix].filter (fun component => !isIdle component) =
        [last ++ suffix] := by simp [isName.busy]
    rw [busy]
    exact (endsIn_absolute _ isName).append front
  · rw [String.append_left_inj]
    constructor
    · intro same
      exact same ▸ unslashed
    · intro plain
      have whole : '/' ∉ (fileName ++ suffix).toList := by
        rw [String.toList_append, List.mem_append, not_or]
        exact ⟨plain, ends.unslashed⟩
      -- Without a slash there is one component, which the suffix goes on with.
      rw [components_of_unslashed plain, components_of_unslashed whole, List.dropLast_singleton,
        List.nil_append, List.singleton_inj, String.append_left_inj] at parts
      exact parts.symm

/-- Only names are left of components that are followed by their text. -/
theorem isName_of_mem_foldl_enter {components place : List String}
    (unslashed : ∀ component ∈ components, '/' ∉ component.toList)
    (names : ∀ name ∈ place, IsName name) :
    ∀ name ∈ components.foldl enter place, IsName name := by
  induction components generalizing place with
  | nil => exact names
  | cons component rest inductionHypothesis =>
      refine inductionHypothesis (List.forall_mem_cons.mp unslashed).2 ?_
      intro name listed
      rw [enter] at listed
      split at listed
      · exact names name listed
      next busy =>
        split at listed
        · exact names name (List.dropLast_subset place listed)
        next downward =>
          rcases List.mem_append.mp listed with above | here
          · exact names name above
          · rw [List.mem_singleton.mp here]
            exact ⟨unslashed component List.mem_cons_self, Bool.eq_false_iff.mpr busy, downward⟩

/-- A path that is resolved leads to the root or ends in a name. -/
theorem resolve_cases (workingDirectory path : String) :
    resolve workingDirectory path = "/" ∨ ∃ name, EndsIn (resolve workingDirectory path) name := by
  have unslashed (text : String) : ∀ component ∈ components text, '/' ∉ component.toList :=
    fun _ => slash_notMem_of_mem_components
  have start : ∀ name ∈ (if isAbsolute path then []
      else (components workingDirectory).foldl enter []), IsName name := by
    split
    · exact List.forall_mem_nil _
    · exact isName_of_mem_foldl_enter (unslashed workingDirectory) (List.forall_mem_nil _)
  have names := isName_of_mem_foldl_enter (unslashed path) start
  rw [resolve]
  rcases List.eq_nil_or_concat ((components path).foldl enter
      (if isAbsolute path then [] else (components workingDirectory).foldl enter []))
    with none | ⟨earlier, last, parts⟩
  · left
    rw [none]
    rfl
  · right
    rw [parts] at names ⊢
    rw [List.concat_eq_append] at names ⊢
    exact ⟨last, endsIn_absolute earlier (names last (by simp))⟩

end Path

namespace FileTree

theorem isDirectory_root (tree : FileTree) (workingDirectory : Place) :
    tree.isDirectory workingDirectory "/" = true := by
  rfl

/-- A path leads to a place of the name that it ends in. -/
theorem exists_above_of_endsIn {tree : FileTree} {workingDirectory place : Place}
    {path name : String} (ends : Path.EndsIn path name)
    (located : tree.locate workingDirectory path = .ok place) :
    ∃ above, place = above ++ [name] := by
  obtain ⟨earlier, parts⟩ := ends.components
  obtain ⟨_, rfl⟩ := locate_eq_ok located
  rw [parts, List.foldl_append]
  exact ⟨_, ends.isName.enter _⟩

end FileTree

end Exemplar
