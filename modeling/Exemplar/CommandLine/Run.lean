import Exemplar.CommandLine.Arguments
import Exemplar.CommandLine.ControlSequence
import Exemplar.CommandLine.Surroundings
import Exemplar.Generation
import Exemplar.Json.Parser

/-
The run of a command. All arguments are checked first, then the configuration and the document are
read, and the code is written only when everything before has succeeded. Control sequences of a
terminal are removed from all that is shown but the notices.
-/

namespace Exemplar

/-- These failures end a run without an error message. -/
inductive Abort where
  | file (failure : FileFailure)
  | undecodable
  | integerTooLong
  | loneSurrogate
  | program
  deriving DecidableEq

/-- A run ends with a refusal of its arguments, with texts for both outputs, or in an abort. -/
inductive Outcome where
  | usage
  | finished (exitCode : Nat) (output messages : String)
  | aborted (abort : Abort) (messages : String)
  deriving DecidableEq

namespace CommandLine

/-- A carriage return counts as the end of a line, alone or before a line feed. -/
def unifyLineEnds : List Char → List Char
  | '\r' :: '\n' :: rest => '\n' :: unifyLineEnds rest
  | '\r' :: rest => '\n' :: unifyLineEnds rest
  | character :: rest => character :: unifyLineEnds rest
  | [] => []

/-- This function ends a run with an error message. -/
def failed (message : String) : Outcome :=
  .finished 1 "" (ControlSequence.shown ("Error: " ++ message ++ "\n"))

/-- The contents of a file are not read when they are malformed or when they end a run at once. -/
inductive Unread where
  | malformed (error : Json.SyntaxError)
  | abort (reason : Abort)

/-- Some faults of a JSON text end a run at once. -/
def Unread.ofError (error : Json.SyntaxError) : Unread :=
  match error.cause with
  | .integerTooLong => .abort .integerTooLong
  | .loneSurrogate => .abort .loneSurrogate
  | _ => .malformed error

def readJson : Contents → Except Unread Json
  | .text text =>
      (Json.parse (String.ofList (unifyLineEnds text.toList))).mapError Unread.ofError
  | .undecodable => .error (.abort .undecodable)

/-- The context starts the message about a malformed text. -/
def Unread.outcome (context : String) : Unread → Outcome
  | .malformed error => failed (context ++ ": " ++ error.message)
  | .abort reason => .aborted reason ""

/-- This function reads a JSON value or ends the run. -/
def readIn (context : String) (contents : Contents) : Except Outcome Json :=
  (readJson contents).mapError (Unread.outcome context)

/-- A configuration is an object of options. -/
def readOptions (configuration : Option (String × Contents)) : Except Outcome Options :=
  match configuration with
  | none => .ok {}
  | some (path, contents) => do
      match ← readIn ("Invalid JSON in config file " ++ path) contents with
      | .object members => .ok (Options.ofMembers members)
      | _ => .error (failed ("Config file " ++ path ++ " must contain a JSON object"))

/-- An option on the command line overrides the configuration. -/
def override (given : Arguments) (options : Options) : Options where
  includeConstructor := (given.constructor.map Json.boolean).getD options.includeConstructor
  nullSafety := (given.nullSafety.map Json.boolean).getD options.nullSafety
  serializationStyle := (given.serialization.map Json.string).getD options.serializationStyle
  packageName := (given.package.map Json.string).getD options.packageName

/-- This function generates the code that the arguments ask for. The configuration is read before
the document. -/
def generate (given : Arguments) (language : Language)
    (configuration : Option (String × Contents)) (document : Contents) :
    Except Outcome Generation := do
  let options ← readOptions configuration
  let document ← readIn "Invalid JSON input" document
  let name := given.name.getD Extraction.defaultRootName
  match Generation.inLanguage language document name (override given options) with
  | .ok generation => .ok generation
  | .error error =>
      .error (if error.concern = .program then .aborted .program "" else failed error.message)

/-- Details are shown only on demand. -/
def noticeText (given : Arguments) (notices : List Notice) : String :=
  String.join
    ((notices.filter fun notice => given.verbose || notice.level == .warning).map Notice.line)

/-- A file that cannot be opened makes the arguments wrong. Only a path that no file can have ends
the run at once. -/
def refusal : FileFailure → Outcome
  | .nulCharacter => .aborted (.file .nulCharacter) ""
  | _ => .usage

/-- The inputs of a run are the language and whether the user named it, the configuration with its
path, the document unless it comes from the standard input, and the path of the output. -/
structure Inputs where
  language : Language := .typeScript
  named : Bool := false
  configuration : Option (String × Contents) := none
  document : Option Contents := none
  output : Option String := none

section

variable {m : Type → Type} [Monad m] (surroundings : Surroundings m)

/-- The path of the configuration is resolved by its text. -/
def openConfiguration (given : Arguments) :
    m (Except Outcome (Option (String × Contents))) := do
  match given.config with
  | none => pure (.ok none)
  | some path =>
      if path.toList.contains '\x00' then
        pure (.error (refusal .nulCharacter))
      else
        let resolved := Path.resolve (← surroundings.workingDirectory) path
        match ← surroundings.read resolved with
        | .ok contents => pure (.ok (some (resolved, contents)))
        | .error failure => pure (.error (refusal failure))

/-- A hyphen stands for the standard input, which is read later. -/
def openDocument (given : Arguments) : m (Except Outcome (Option Contents)) := do
  if given.documentPath = "-" then
    pure (.ok none)
  else
    match ← surroundings.read given.documentPath with
    | .ok contents => pure (.ok (some contents))
    | .error failure => pure (.error (refusal failure))

/-- The path of the output is resolved by its text. -/
def resolveOutput (given : Arguments) : m (Except Outcome (Option String)) := do
  match given.outputPath? with
  | none => pure (.ok none)
  | some path =>
      if path.toList.contains '\x00' then
        pure (.error (refusal .nulCharacter))
      else
        pure (.ok (some (Path.resolve (← surroundings.workingDirectory) path)))

/-- This function checks a part of the arguments and adds what it finds to the inputs. -/
def perform (given : Arguments) (inputs : Inputs) : Arguments.Check → m (Except Outcome Inputs)
  | .language =>
      match given.language? with
      | some (language, named) => pure (.ok { inputs with language := language, named := named })
      | none => pure (.error .usage)
  | .configuration => do
      let opened ← openConfiguration surroundings given
      pure (opened.map fun configuration => { inputs with configuration := configuration })
  | .document => do
      let opened ← openDocument surroundings given
      pure (opened.map fun document => { inputs with document := document })
  | .output => do
      let resolved ← resolveOutput surroundings given
      pure (resolved.map fun output => { inputs with output := output })
  | .pathCount =>
      pure (if given.paths.length ≤ 2 then .ok inputs else .error .usage)

/-- The first check that fails refuses the arguments. -/
def checkAll (given : Arguments) (inputs : Inputs) :
    List Arguments.Check → m (Except Outcome Inputs)
  | [] => pure (.ok inputs)
  | check :: later => do
      match ← perform surroundings given inputs check with
      | .ok checked => checkAll given checked later
      | .error outcome => pure (.error outcome)

/-- The code goes to the output file, or to a file of the suggested name when the output is a
directory. -/
def deliver (output : Option String) (generation : Generation) (messages : String) : m Outcome := do
  match output with
  | none => pure (.finished 0 (ControlSequence.shown generation.code) messages)
  | some resolved =>
      let path :=
        if ← surroundings.isDirectory resolved then Path.join resolved generation.suggestedPath
        else resolved
      match ← surroundings.write path generation.code with
      | .ok () =>
          pure (.finished 0 "" (messages ++ ControlSequence.shown ("Wrote " ++ path ++ "\n")))
      | .error failure => pure (.aborted (.file failure) messages)

/-- This function runs a command whose arguments have been checked. -/
def runChecked (given : Arguments) (inputs : Inputs) : m Outcome := do
  if given.listStyles then
    let listed := if inputs.named then [inputs.language] else Language.all
    pure (.finished 0 (Language.styleLines listed ++ "\n") "")
  else
    let document ← match inputs.document with
      | some contents => pure contents
      | none => surroundings.standardInput
    match generate given inputs.language inputs.configuration document with
    | .error outcome => pure outcome
    | .ok generation =>
        deliver surroundings inputs.output generation (noticeText given generation.notices)

/-- This function runs a command. -/
def run (arguments : List String) : m Outcome := do
  match Arguments.parse? arguments with
  | none => pure .usage
  | some given =>
      match ← checkAll surroundings given {} given.checks with
      | .ok inputs => runChecked surroundings given inputs
      | .error outcome => pure outcome

end

end CommandLine

end Exemplar
