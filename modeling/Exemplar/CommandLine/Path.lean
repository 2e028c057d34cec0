namespace Exemplar.Path

/-- This function splits a text at its slashes. -/
def split : List Char → List (List Char)
  | [] => [[]]
  | character :: rest =>
      if character = '/' then [] :: split rest
      else
        match split rest with
        | [] => [[character]]
        | first :: later => (character :: first) :: later

/-- This function lists the components of a path. Neighbouring slashes leave empty components. -/
def components (path : String) : List String :=
  (split path.toList).map String.ofList

/-- An absolute path starts with a slash. -/
def isAbsolute (path : String) : Bool :=
  path.toList.head? == some '/'

/-- An empty component and a single dot lead nowhere. -/
def isIdle (component : String) : Bool :=
  component == "" || component == "."

/-- This function follows one component by its text alone. Nothing is above the root. -/
def enter (place : List String) (component : String) : List String :=
  if isIdle component then place
  else if component = ".." then place.dropLast
  else place ++ [component]

def absolute (components : List String) : String :=
  "/" ++ "/".intercalate components

/-- This function resolves a path by its text alone. -/
def resolve (workingDirectory path : String) : String :=
  let start := if isAbsolute path then [] else (components workingDirectory).foldl enter []
  absolute ((components path).foldl enter start)

/-- Exactly two slashes at the start of a path are kept, and any other number counts as one. -/
def root (path : String) : String :=
  match path.toList with
  | '/' :: '/' :: '/' :: _ => "/"
  | '/' :: '/' :: _ => "//"
  | _ => "/"

/-- This function puts a path behind a directory. Idle components disappear, and an absolute path
leaves the directory. -/
def join (directory path : String) : String :=
  let kept := "/".intercalate ((components path).filter fun component => !isIdle component)
  if isAbsolute path then root path ++ kept
  else if directory = "/" then directory ++ kept
  else directory ++ "/" ++ kept

end Exemplar.Path
