import Exemplar.CommandLine.Surroundings

namespace Exemplar.FileTree

/-- A tree differs from another one only at a place when the place holds a file with a text and all
other places hold what they held before. -/
structure DiffersAt (place : Place) (text : String) (tree written : FileTree) : Prop where
  held : written.entry place = .file (.text text)
  others : ∀ other, other ≠ place → written.entry other = tree.entry other

/-- The file that is put at a place is found there. -/
theorem find?_put_self (place : Place) (text : String) (files : List (Place × Contents)) :
    (put place text files).find? (fun file => file.1 == place) = some (place, .text text) := by
  induction files with
  | nil => simp [put]
  | cons first rest inductionHypothesis =>
      by_cases here : first.1 = place
      · simp [put, here]
      · simp [put, here, inductionHypothesis]

/-- At all other places the same files are found as before. -/
theorem find?_put_other {place other : Place} (apart : other ≠ place) (text : String)
    (files : List (Place × Contents)) :
    (put place text files).find? (fun file => file.1 == other) =
      files.find? fun file => file.1 == other := by
  induction files with
  | nil => simp [put, Ne.symm apart]
  | cons first rest inductionHypothesis =>
      by_cases here : first.1 = place
      · simp [put, here, Ne.symm apart]
      · simp [put, here, List.find?_cons, inductionHypothesis]

/-- A file is put at a place without changing any other place. -/
theorem differsAt_put {tree : FileTree} {place : Place} (free : tree.entry place ≠ .directory)
    (text : String) :
    DiffersAt place text tree { tree with files := put place text tree.files } where
  held := by
    have notDirectory : ¬ (place = [] ∨ place ∈ tree.directories) := by
      intro isDirectory
      exact free (if_pos isDirectory)
    rw [entry, if_neg notDirectory, find?_put_self]
  others other apart := by
    rw [entry, entry, find?_put_other apart]

/-- A text is written when the path leads to a place that is no directory. -/
theorem write_eq_ok_iff {tree written : FileTree} {workingDirectory : Place}
    {path text : String} :
    tree.write workingDirectory path text = .ok written ↔
      ∃ place, tree.locate workingDirectory path = .ok place ∧ tree.entry place ≠ .directory ∧
        { tree with files := put place text tree.files } = written := by
  rw [write]
  cases located : tree.locate workingDirectory path with
  | error failure => simp [bind, Except.bind]
  | ok place =>
      by_cases directory : tree.entry place = .directory <;>
        simp [bind, Except.bind, directory]

/-- A text that is written stands at the place that the path leads to, and nothing else changes. -/
theorem differsAt_of_write {tree written : FileTree} {workingDirectory : Place}
    {path text : String} (success : tree.write workingDirectory path text = .ok written) :
    ∃ place, tree.locate workingDirectory path = .ok place ∧
      DiffersAt place text tree written := by
  obtain ⟨place, located, free, rfl⟩ := write_eq_ok_iff.mp success
  exact ⟨place, located, differsAt_put free text⟩

/-- A path that can be followed leads to the place that its components tell. -/
theorem follow_eq_ok {tree : FileTree} {place reached : Place} {components : List String}
    (followed : tree.follow place components = .ok reached) :
    reached = components.foldl Path.enter place := by
  induction components generalizing place with
  | nil => exact (Except.ok.inj followed).symm
  | cons component rest inductionHypothesis =>
      rw [follow] at followed
      split at followed
      · cases followed
      · dsimp only at followed
        split at followed
        · exact (Except.ok.inj followed).symm
        · exact inductionHypothesis followed
        · cases followed
        · cases followed

section Surroundings

variable (workingDirectory : Place) (standardInput : Contents) (tree : FileTree)

@[simp] theorem run_workingDirectory :
    (surroundings workingDirectory standardInput).workingDirectory.run tree =
      pure (Path.absolute workingDirectory, tree) := rfl

@[simp] theorem run_standardInput :
    (surroundings workingDirectory standardInput).standardInput.run tree =
      pure (standardInput, tree) := rfl

@[simp] theorem run_read (path : String) :
    ((surroundings workingDirectory standardInput).read path).run tree =
      pure (tree.read workingDirectory path, tree) := rfl

@[simp] theorem run_isDirectory (path : String) :
    ((surroundings workingDirectory standardInput).isDirectory path).run tree =
      pure (tree.isDirectory workingDirectory path, tree) := rfl

/-- A command that writes a file goes on with the tree that holds it. -/
theorem run_write_of_ok {path text : String} {written : FileTree}
    (success : tree.write workingDirectory path text = .ok written) :
    ((surroundings workingDirectory standardInput).write path text).run tree =
      pure (.ok (), written) := by
  simp [surroundings, success]

/-- A command that fails to write a file goes on with the same tree. -/
theorem run_write_of_error {path text : String} {failure : FileFailure}
    (failed : tree.write workingDirectory path text = .error failure) :
    ((surroundings workingDirectory standardInput).write path text).run tree =
      pure (.error failure, tree) := by
  simp [surroundings, failed]

end Surroundings

end Exemplar.FileTree
