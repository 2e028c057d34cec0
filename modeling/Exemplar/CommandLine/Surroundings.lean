import Exemplar.CommandLine.FileTree

namespace Exemplar

/-- The surroundings answer questions about files and write them, as actions of some kind. -/
structure Surroundings (m : Type → Type) where
  workingDirectory : m String
  standardInput : m Contents
  read : String → m (Except FileFailure Contents)
  isDirectory : String → m Bool
  write : String → String → m (Except FileFailure Unit)

/-- A tree of files surrounds a command that starts in one of its directories. -/
def FileTree.surroundings (workingDirectory : Place) (standardInput : Contents) :
    Surroundings (StateM FileTree) where
  workingDirectory := pure (Path.absolute workingDirectory)
  standardInput := pure standardInput
  read path := do
    let tree ← get
    pure (tree.read workingDirectory path)
  isDirectory path := do
    let tree ← get
    pure (tree.isDirectory workingDirectory path)
  write path text := do
    let tree ← get
    match tree.write workingDirectory path text with
    | .ok written =>
        set written
        pure (.ok ())
    | .error failure => pure (.error failure)

end Exemplar
