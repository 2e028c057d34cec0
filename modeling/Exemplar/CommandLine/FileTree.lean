import Exemplar.CommandLine.Path

namespace Exemplar

/-- These are the causes for which a file cannot be read or written. -/
inductive FileFailure where
  | notFound
  | notADirectory
  | isADirectory
  | nameTooLong
  | nulCharacter
  | inaccessible (reason : String)
  deriving DecidableEq

/-- A file holds a text, or bytes that encode no text. -/
inductive Contents where
  | text (value : String)
  | undecodable
  deriving DecidableEq

instance : Coe String Contents := ⟨.text⟩

/-- The place of a file or directory lists the names on the way to it. -/
abbrev Place := List String

/-- A tree holds directories and files. The root is always a directory. -/
structure FileTree where
  directories : List Place
  files : List (Place × Contents)
  deriving DecidableEq

namespace FileTree

/-- A place holds a directory, a file, or nothing. -/
inductive Entry where
  | nothing
  | directory
  | file (contents : Contents)
  deriving DecidableEq

/-- This function looks up a place. -/
def entry (tree : FileTree) (place : Place) : Entry :=
  if place = [] ∨ place ∈ tree.directories then .directory
  else
    match tree.files.find? fun file => file.1 == place with
    | some file => .file file.2
    | none => .nothing

/-- A name takes at most this many bytes. -/
def longestName : Nat := 255

/-- This function follows the components of a path. All of them but the last have to lead to
directories. -/
def follow (tree : FileTree) (place : Place) : List String → Except FileFailure Place
  | [] => .ok place
  | component :: rest =>
      if component ≠ "" ∧ longestName < component.utf8ByteSize then .error .nameTooLong
      else
        let next := Path.enter place component
        match rest, tree.entry next with
        | [], _ => .ok next
        | _, .directory => tree.follow next rest
        | _, .file _ => .error .notADirectory
        | _, .nothing => .error .notFound

/-- The text of a path takes at most this many bytes. -/
def longestPath : Nat := 4095

/-- This function finds the place that a path leads to. A path that is too long leads nowhere. -/
def locate (tree : FileTree) (workingDirectory : Place) (path : String) :
    Except FileFailure Place :=
  if path.toList.contains '\x00' then .error .nulCharacter
  else if path = "" then .error .notFound
  else if longestPath < path.utf8ByteSize then .error .nameTooLong
  else tree.follow (if Path.isAbsolute path then [] else workingDirectory) (Path.components path)

/-- This function reads the file that a path leads to. -/
def read (tree : FileTree) (workingDirectory : Place) (path : String) :
    Except FileFailure Contents := do
  let place ← tree.locate workingDirectory path
  match tree.entry place with
  | .file contents => .ok contents
  | .directory => .error .isADirectory
  | .nothing => .error .notFound

def isDirectory (tree : FileTree) (workingDirectory : Place) (path : String) : Bool :=
  match tree.locate workingDirectory path with
  | .ok place => tree.entry place == .directory
  | .error _ => false

/-- This function replaces the text at a place or adds a file there. -/
def put (place : Place) (text : String) : List (Place × Contents) → List (Place × Contents)
  | [] => [(place, text)]
  | file :: rest =>
      if file.1 = place then (place, text) :: rest else file :: put place text rest

/-- This function writes a text into the file that a path leads to. -/
def write (tree : FileTree) (workingDirectory : Place) (path text : String) :
    Except FileFailure FileTree := do
  let place ← tree.locate workingDirectory path
  if tree.entry place = .directory then
    .error .isADirectory
  else
    .ok { tree with files := put place text tree.files }

end FileTree

end Exemplar
