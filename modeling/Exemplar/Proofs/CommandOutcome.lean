import Exemplar.Proofs.AcceptedArguments
import Exemplar.Proofs.GenerationOutcome
import Exemplar.Proofs.ShownText

/-
Outcomes of a command. A command whose arguments are accepted generates the same code as the
generation itself, and the first failure on the way is reported before any file changes. The code
goes into one file as it is, but the standard output shows it without control sequences.
-/

namespace Exemplar.CommandLine

/-- This function runs a command on a tree of files. -/
def runIn (workingDirectory : Place) (standardInput : Contents) (arguments : List String)
    (tree : FileTree) : Outcome × FileTree :=
  ((run (FileTree.surroundings workingDirectory standardInput) arguments).run tree).run

/-- A configuration that holds an object gives the options, and without one they are the default
options. -/
inductive ReadsOptions : Option (String × Contents) → Options → Prop where
  | default : ReadsOptions none {}
  | object {path : String} {contents : Contents} {members : List (String × Json)}
      (read : readJson contents = .ok (.object members)) :
      ReadsOptions (some (path, contents)) (Options.ofMembers members)

section

variable (given : Arguments) (inputs : Inputs) (document : Contents)

/-- This function generates what the arguments ask for, with options that are still to be
overridden. -/
def generateWith (options : Options) (value : Json) : Except Error Generation :=
  Generation.run (.string inputs.language.name) value
    (given.name.getD Extraction.defaultRootName) (override given options)

/-- The first failure of a command has a message. A configuration that is no JSON text or no object
comes first, then a document that is no JSON text, then an error of the generation. -/
inductive FailsFirst : String → Prop where
  | configurationSyntax {path : String} {contents : Contents} {error : Json.SyntaxError}
      (configured : inputs.configuration = some (path, contents))
      (broken : readJson contents = .error (.malformed error)) :
      FailsFirst ("Invalid JSON in config file " ++ path ++ ": " ++ error.message)
  | configurationKind {path : String} {contents : Contents} {value : Json}
      (configured : inputs.configuration = some (path, contents))
      (read : readJson contents = .ok value) (noObject : ∀ members, value ≠ .object members) :
      FailsFirst ("Config file " ++ path ++ " must contain a JSON object")
  | documentSyntax {options : Options} {error : Json.SyntaxError}
      (optioned : ReadsOptions inputs.configuration options)
      (broken : readJson document = .error (.malformed error)) :
      FailsFirst ("Invalid JSON input: " ++ error.message)
  | generation {options : Options} {value : Json} {error : Error}
      (optioned : ReadsOptions inputs.configuration options) (read : readJson document = .ok value)
      (refused : generateWith given inputs options value = .error error) :
      FailsFirst error.message

/-- A command breaks off when it reads its configuration or its document and meets something that
ends it at once: bytes that encode no text, an integer with too many digits, or half of a surrogate
pair. -/
inductive BreaksOff : Abort → Prop where
  | configuration {path : String} {contents : Contents} {reason : Abort}
      (configured : inputs.configuration = some (path, contents))
      (stopped : readJson contents = .error (.abort reason)) : BreaksOff reason
  | document {options : Options} {reason : Abort}
      (optioned : ReadsOptions inputs.configuration options)
      (stopped : readJson document = .error (.abort reason)) : BreaksOff reason

/-- A command generates what the generation gives for its options and its document. -/
inductive Generates : Generation → Prop where
  | intro {options : Options} {value : Json} {generation : Generation}
      (optioned : ReadsOptions inputs.configuration options) (read : readJson document = .ok value)
      (generated : generateWith given inputs options value = .ok generation) : Generates generation

end

variable {given : Arguments} {inputs : Inputs} {document : Contents}

theorem readIn_of_ok {contents : Contents} {value : Json} (read : readJson contents = .ok value)
    (context : String) : readIn context contents = .ok value := by
  rw [readIn, read]
  rfl

theorem readIn_of_error {contents : Contents} {unread : Unread}
    (broken : readJson contents = .error unread) (context : String) :
    readIn context contents = .error (unread.outcome context) := by
  rw [readIn, broken]
  rfl

/-- The options are read from the configuration. -/
theorem readOptions_of_readsOptions {configuration : Option (String × Contents)} {options : Options}
    (reads : ReadsOptions configuration options) : readOptions configuration = .ok options := by
  cases reads with
  | default => rfl
  | object read =>
      rw [readOptions, readIn_of_ok read]
      rfl

/-- With options and a document the generation decides how a command ends. -/
theorem generate_of_read {options : Options} {value : Json}
    (optioned : ReadsOptions inputs.configuration options) (read : readJson document = .ok value) :
    generate given inputs.language inputs.configuration document =
      match generateWith given inputs options value with
      | .ok generation => .ok generation
      | .error error => .error (failed error.message) := by
  have started : generate given inputs.language inputs.configuration document =
      match generateWith given inputs options value with
      | .ok generation => .ok generation
      | .error error =>
          .error (if error.concern = .program then .aborted .program ""
            else failed error.message) := by
    rw [generateWith, Generation.run_of_named (Language.parse_name inputs.language), generate,
      readOptions_of_readsOptions optioned]
    change (readIn "Invalid JSON input" document >>= _) = _
    rw [readIn_of_ok read]
    rfl
  rw [started]
  cases generated : generateWith given inputs options value with
  | ok generation => rfl
  | error error => exact congrArg Except.error (if_neg (Generation.concern_of_run generated))

/-- The first failure of a command is reported. -/
theorem generate_of_failsFirst {message : String}
    (fails : FailsFirst given inputs document message) :
    generate given inputs.language inputs.configuration document = .error (failed message) := by
  cases fails with
  | configurationSyntax configured broken =>
      rw [generate, configured, readOptions, readIn_of_error broken]
      rfl
  | @configurationKind path contents value configured read noObject =>
      have refused : readOptions inputs.configuration =
          .error (failed ("Config file " ++ path ++ " must contain a JSON object")) := by
        rw [configured, readOptions, readIn_of_ok read]
        cases value with
        | object members => exact absurd rfl (noObject members)
        | _ => rfl
      rw [generate, refused]
      rfl
  | documentSyntax optioned broken =>
      rw [generate, readOptions_of_readsOptions optioned]
      simp only [bind, Except.bind, readIn_of_error broken]
      rfl
  | generation optioned read refused => rw [generate_of_read optioned read, refused]

/-- A command that breaks off generates nothing. -/
theorem generate_of_breaksOff {reason : Abort} (breaks : BreaksOff inputs document reason) :
    generate given inputs.language inputs.configuration document =
      .error (.aborted reason "") := by
  cases breaks with
  | configuration configured stopped =>
      rw [generate, configured, readOptions, readIn_of_error stopped]
      rfl
  | document optioned stopped =>
      rw [generate, readOptions_of_readsOptions optioned]
      simp only [bind, Except.bind, readIn_of_error stopped]
      rfl

/-- A command generates what the generation gives. -/
theorem generate_of_generates {generation : Generation}
    (generates : Generates given inputs document generation) :
    generate given inputs.language inputs.configuration document = .ok generation := by
  cases generates with
  | intro optioned read generated => rw [generate_of_read optioned read, generated]

/-- A command fails, breaks off, or generates code. -/
theorem generate_cases (given : Arguments) (inputs : Inputs) (document : Contents) :
    (∃ message, FailsFirst given inputs document message) ∨
      (∃ reason, BreaksOff inputs document reason) ∨
      ∃ generation, Generates given inputs document generation := by
  have ofOptions {options : Options} (optioned : ReadsOptions inputs.configuration options) :
      (∃ message, FailsFirst given inputs document message) ∨
        (∃ reason, BreaksOff inputs document reason) ∨
        ∃ generation, Generates given inputs document generation := by
    cases read : readJson document with
    | error unread =>
        cases unread with
        | malformed error => exact .inl ⟨_, .documentSyntax optioned read⟩
        | abort reason => exact .inr (.inl ⟨reason, .document optioned read⟩)
    | ok value =>
        cases generated : generateWith given inputs options value with
        | error error => exact .inl ⟨_, .generation optioned read generated⟩
        | ok generation => exact .inr (.inr ⟨generation, .intro optioned read generated⟩)
  cases configured : inputs.configuration with
  | none =>
      have optioned : ReadsOptions inputs.configuration {} := configured ▸ ReadsOptions.default
      exact ofOptions optioned
  | some configuration =>
      cases read : readJson configuration.2 with
      | error unread =>
          cases unread with
          | malformed error => exact .inl ⟨_, .configurationSyntax configured read⟩
          | abort reason => exact .inr (.inl ⟨reason, .configuration configured read⟩)
      | ok value =>
          cases value with
          | object members =>
              have optioned : ReadsOptions inputs.configuration (Options.ofMembers members) :=
                configured ▸ ReadsOptions.object read
              exact ofOptions optioned
          | _ => exact .inl ⟨_, .configurationKind configured read fun _ same => nomatch same⟩

/-- Code that a command generates is what the generation gives. -/
theorem exists_generates {α : Type} {observe : Generation → α} {observed : α}
    (generated : (generate given inputs.language inputs.configuration document).toOption.map
      observe = some observed) :
    ∃ generation, Generates given inputs document generation ∧ observe generation = observed := by
  rcases generate_cases given inputs document with
    ⟨message, fails⟩ | ⟨reason, breaks⟩ | ⟨generation, generates⟩
  · rw [generate_of_failsFirst fails] at generated
    cases generated
  · rw [generate_of_breaksOff breaks] at generated
    cases generated
  · rw [generate_of_generates generates] at generated
    exact ⟨generation, generates, Option.some.inj generated⟩

variable {tree : FileTree} {workingDirectory : Place} {standardInput : Contents}

/-- Code goes to the output itself, or to the suggested path when the output is a directory. -/
def target (tree : FileTree) (workingDirectory : Place) (resolved : String)
    (generation : Generation) : String :=
  if tree.isDirectory workingDirectory resolved then Path.join resolved generation.suggestedPath
  else resolved

/-- Code that can be written ends a command with a tree that holds it. -/
theorem run_deliver_of_ok {resolved messages : String} {generation : Generation}
    {written : FileTree}
    (success : tree.write workingDirectory (target tree workingDirectory resolved generation)
      generation.code = .ok written) :
    (deliver (FileTree.surroundings workingDirectory standardInput) (some resolved) generation
        messages).run tree =
      pure (.finished 0 "" (messages ++ ControlSequence.shown
        ("Wrote " ++ target tree workingDirectory resolved generation ++ "\n")), written) := by
  have writes := FileTree.run_write_of_ok workingDirectory standardInput tree success
  simp only [deliver, StateT.run_bind, FileTree.run_isDirectory, pure_bind]
  rw [target] at writes
  rw [writes]
  rfl

/-- Code that cannot be written ends a command without a change. -/
theorem run_deliver_of_error {resolved messages : String} {generation : Generation}
    {failure : FileFailure}
    (failed : tree.write workingDirectory (target tree workingDirectory resolved generation)
      generation.code = .error failure) :
    (deliver (FileTree.surroundings workingDirectory standardInput) (some resolved) generation
        messages).run tree =
      pure (.aborted (.file failure) messages, tree) := by
  have writes := FileTree.run_write_of_error workingDirectory standardInput tree failed
  simp only [deliver, StateT.run_bind, FileTree.run_isDirectory, pure_bind]
  rw [target] at writes
  rw [writes]
  rfl

/-- A command whose arguments have been checked generates its code and delivers it. -/
theorem run_runChecked (generating : given.listStyles = false) :
    (runChecked (FileTree.surroundings workingDirectory standardInput) given inputs).run tree =
      match generate given inputs.language inputs.configuration
          (inputs.document.getD standardInput) with
      | .error outcome => pure (outcome, tree)
      | .ok generation =>
          (deliver (FileTree.surroundings workingDirectory standardInput) inputs.output generation
            (noticeText given generation.notices)).run tree := by
  have unlisted : ¬ given.listStyles = true := Bool.eq_false_iff.mp generating
  rw [runChecked, if_neg unlisted]
  cases inputs.document with
  | none =>
      simp only [Option.getD_none, StateT.run_bind, FileTree.run_standardInput, pure_bind]
      cases generate given inputs.language inputs.configuration standardInput <;> rfl
  | some text =>
      simp only [Option.getD_some, pure_bind]
      cases generate given inputs.language inputs.configuration text <;> rfl

/-- A command whose arguments are accepted runs with its inputs. -/
theorem runIn_of_accepts {arguments : List String}
    (parsed : Arguments.parse? arguments = some given)
    (accepts : Accepts tree workingDirectory given inputs) :
    runIn workingDirectory standardInput arguments tree =
      ((runChecked (FileTree.surroundings workingDirectory standardInput) given inputs).run
        tree).run := by
  have checked := (checkAll_eq_ok_iff standardInput parsed).mpr accepts
  rw [runIn, run, parsed]
  simp only [StateT.run_bind]
  rw [checked, pure_bind]

section

variable (workingDirectory : Place) (standardInput : Contents) (arguments : List String)
  (tree : FileTree) (given : Arguments) (inputs : Inputs)

end

end Exemplar.CommandLine
