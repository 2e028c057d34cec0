import Exemplar.Language

namespace Exemplar

/-- These options take a value. -/
inductive ValuedOption where
  | name
  | config
  | language
  | serialization
  | package
  deriving DecidableEq

/-- These options are switches. -/
inductive Switch where
  | constructor (on : Bool)
  | nullSafety (on : Bool)
  | listStyles
  | verbose
  deriving DecidableEq

/-- The arguments say what the user asks for. An option that is not given is absent, and the valued
options that are given stand in the order of their first occurrences. -/
structure Arguments where
  valued : List ValuedOption := []
  name : Option String := none
  config : Option String := none
  languageName : Option String := none
  serialization : Option String := none
  package : Option String := none
  constructor : Option Bool := none
  nullSafety : Option Bool := none
  listStyles : Bool := false
  verbose : Bool := false
  paths : List String := []
  deriving DecidableEq

namespace Arguments

def mention (given : Arguments) (option : ValuedOption) : Arguments :=
  if option ∈ given.valued then given else { given with valued := given.valued ++ [option] }

/-- This function gives an option its value. -/
def setValue (given : Arguments) (value : String) : ValuedOption → Arguments
  | .name => { given with name := some value }
  | .config => { given with config := some value }
  | .language => { given with languageName := some value }
  | .serialization => { given with serialization := some value }
  | .package => { given with package := some value }

def assign (given : Arguments) (value : String) (option : ValuedOption) : Arguments :=
  (given.mention option).setValue value option

/-- This function turns a switch. -/
def turn (given : Arguments) : Switch → Arguments
  | .constructor on => { given with constructor := some on }
  | .nullSafety on => { given with nullSafety := some on }
  | .listStyles => { given with listStyles := true }
  | .verbose => { given with verbose := true }

def addPath (given : Arguments) (path : String) : Arguments :=
  { given with paths := given.paths ++ [path] }

/-- This function finds a valued option by its long spelling. -/
def longValued? : String → Option ValuedOption
  | "--name" => some .name
  | "--config" => some .config
  | "--language" => some .language
  | "--serialization" => some .serialization
  | "--package" => some .package
  | _ => none

/-- This function finds a switch by its long spelling. -/
def longSwitch? : String → Option Switch
  | "--constructor" => some (.constructor true)
  | "--no-constructor" => some (.constructor false)
  | "--null-safety" => some (.nullSafety true)
  | "--no-null-safety" => some (.nullSafety false)
  | "--list-styles" => some .listStyles
  | "--verbose" => some .verbose
  | _ => none

/-- This function finds a valued option by its letter. -/
def shortValued? : Char → Option ValuedOption
  | 'n' => some .name
  | 'c' => some .config
  | 'l' => some .language
  | 's' => some .serialization
  | _ => none

def shortSwitch? : Char → Option Switch
  | 'v' => some .verbose
  | _ => none

/-- An argument turns switches, and it may end in a valued option with or without its value. -/
structure Reading where
  switches : List Switch
  valued : Option (ValuedOption × Option String)
  deriving DecidableEq

/-- The characters after an equals sign are the value of a long option. A switch takes none. -/
def readLong? (argument : List Char) : Option Reading :=
  let spelling := String.ofList (argument.takeWhile (· != '='))
  let attached := match argument.dropWhile (· != '=') with
    | [] => none
    | _ :: value => some (String.ofList value)
  match longValued? spelling, longSwitch? spelling, attached with
  | some option, _, value => some ⟨[], some (option, value)⟩
  | none, some switch, none => some ⟨[switch], none⟩
  | _, _, _ => none

/-- The characters after the letter of a valued option are its value. -/
def readShort? : List Char → Option Reading
  | [] => some ⟨[], none⟩
  | letter :: rest =>
      match shortValued? letter, shortSwitch? letter with
      | some option, _ =>
          some ⟨[], some (option, if rest.isEmpty then none else some (String.ofList rest))⟩
      | none, some switch =>
          (readShort? rest).map fun reading =>
            { reading with switches := switch :: reading.switches }
      | none, none => none

/-- An argument with two hyphens is a long option, and one with a single hyphen bundles letters. A
hyphen alone is a path. -/
inductive ArgumentKind where
  | path
  | endOfOptions
  | options (reading : Option Reading)
  deriving DecidableEq

/-- This function tells what an argument is. -/
def classify (argument : String) : ArgumentKind :=
  match argument.toList with
  | ['-', '-'] => .endOfOptions
  | '-' :: '-' :: rest => .options (readLong? ('-' :: '-' :: rest))
  | '-' :: letter :: rest => .options (readShort? (letter :: rest))
  | _ => .path

/-- This function reads the arguments one by one. A valued option without an attached value takes
the next argument, whatever it looks like. -/
def scan (given : Arguments) : List String → Option Arguments
  | [] => some given
  | argument :: rest =>
      match classify argument with
      | .path => scan (given.addPath argument) rest
      | .endOfOptions => some (rest.foldl addPath given)
      | .options none => none
      | .options (some reading) =>
          let turned := reading.switches.foldl turn given
          match reading.valued with
          | none => scan turned rest
          | some (option, some value) => scan (turned.assign value option) rest
          | some (option, none) =>
              match rest with
              | [] => none
              | value :: later => scan (turned.assign value option) later

/-- Two letters outside the basic alphabet count as a letter of it when case is ignored. -/
def foldCase (character : Char) : Char :=
  if character = '\u017F' then 's'
  else if character = '\u212A' then 'k'
  else character.toLower

/-- A language may be given in capitals, but without blanks around it. -/
def languageOf? (given : String) : Option Language :=
  Language.ofName? (String.ofList (given.toList.map foldCase))

/-- The first path is the document. -/
def documentPath (given : Arguments) : String :=
  given.paths.head?.getD "-"

/-- The second path is the output. -/
def outputPath? (given : Arguments) : Option String :=
  given.paths[1]?

/-- This function returns the language and whether the user named it. -/
def language? (given : Arguments) : Option (Language × Bool) :=
  match given.languageName with
  | none => some (.typeScript, false)
  | some name => (languageOf? name).map fun language => (language, true)

/-- This function reads a command line. -/
def parse? (arguments : List String) : Option Arguments :=
  scan {} arguments

/-- These checks can refuse the arguments. -/
inductive Check where
  | language
  | configuration
  | document
  | output
  | pathCount
  deriving DecidableEq

/-- The value of an option may have to be checked. -/
def Check.ofOption? : ValuedOption → Option Check
  | .config => some .configuration
  | .language => some .language
  | .name | .serialization | .package => none

/-- The options that are given are checked before the paths, and the number of the paths comes
last. -/
def checks (given : Arguments) : List Check :=
  given.valued.filterMap Check.ofOption? ++ [.document, .output, .pathCount]

end Arguments

end Exemplar
