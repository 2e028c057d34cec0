import Exemplar.Proofs.CapitalNames
import Exemplar.Proofs.ChildPaths
import Exemplar.Proofs.CommandOutcome
import Exemplar.Proofs.PlainNames

/-
Directories as outputs. The conventions for names never bring in a slash, and snake_case removes
slashes from all names that have words. A command that writes into a directory stays in it when the
name of the file has no slash, but a slash in the name of the root model can lead out of it.
-/

namespace Exemplar

namespace Unicode

/-- A mapping avoids slashes when only a slash may have one in its form. -/
def CaseMapping.AvoidsSlashes (mapping : CaseMapping) : Prop :=
  (∀ expansion ∈ mapping.expansions, '/'.toNat ∉ expansion.2) ∧
    ∀ run ∈ mapping.runs,
      run.target + (run.last - run.first) < '/'.toNat ∨ '/'.toNat < run.target

instance (mapping : CaseMapping) : Decidable mapping.AvoidsSlashes :=
  inferInstanceAs (Decidable (_ ∧ _))

theorem avoidsSlashes_mappings : upperMapping.AvoidsSlashes ∧ lowerMapping.AvoidsSlashes := by
  decide +kernel

theorem CaseMapping.AvoidsSlashes.eq_of_mem_form {mapping : CaseMapping}
    (avoids : mapping.AvoidsSlashes) {character : Char} (member : '/' ∈ mapping.form character) :
    character = '/' :=
  Avoids.eq_of_mem_form ⟨by decide, avoids.1, avoids.2⟩ member

/-- A text in lower case has no new slash. -/
theorem slash_mem_of_mem_lowerAfter {before text : List Char}
    (member : '/' ∈ lowerAfter before text) : '/' ∈ text := by
  induction text generalizing before with
  | nil => exact member
  | cons first rest inductionHypothesis =>
      rw [lowerAfter, List.mem_append] at member
      rcases member with form | later
      · split at form
        · exact absurd form (by decide)
        · have slash := avoidsSlashes_mappings.2.eq_of_mem_form form
          rw [slash]
          exact List.mem_cons_self
      · exact List.mem_cons_of_mem first (inductionHypothesis later)

end Unicode

namespace Naming

/-- The deletion of separators brings in no slash. -/
theorem slash_mem_of_mem_collapseSeparators {text : List Char}
    (member : '/' ∈ collapseSeparators text) : '/' ∈ text := by
  induction text using collapseSeparators.induct with
  | case1 separator next rest deleted inductionHypothesis =>
      rw [collapseSeparators, if_pos deleted, List.mem_append] at member
      rcases member with form | later
      · have slash := Unicode.avoidsSlashes_mappings.1.eq_of_mem_form form
        simp [slash]
      · simp [inductionHypothesis later]
  | case2 separator next rest kept inductionHypothesis =>
      rw [collapseSeparators, if_neg kept, List.mem_cons] at member
      rcases member with slash | later
      · simp [← slash]
      · exact List.mem_cons_of_mem separator (inductionHypothesis later)
  | case3 last => exact member
  | case4 => exact member

/-- A name in PascalCase has no new slash. -/
theorem slash_mem_of_mem_pascal {text : List Char} (member : '/' ∈ pascal text) : '/' ∈ text := by
  cases text with
  | nil => exact member
  | cons first rest =>
      rcases List.mem_append.mp member with form | later
      · have slash := Unicode.avoidsSlashes_mappings.1.eq_of_mem_form form
        simp [slash]
      · exact List.mem_cons_of_mem first (slash_mem_of_mem_collapseSeparators later)

/-- A group of characters of one word that has an alphanumeric character has no other ones. -/
theorem all_isAlphanumeric_of_isChain {group : List Char}
    (joined : group.IsChain fun previous next => sameWord previous next = true)
    (holdsOne : group.any Unicode.isAlphanumeric = true) :
    group.all Unicode.isAlphanumeric = true := by
  induction group with
  | nil => rfl
  | cons first rest inductionHypothesis =>
      cases rest with
      | nil => simpa using holdsOne
      | cons next later =>
          obtain ⟨same, joinedLater⟩ := List.isChain_cons_cons.mp joined
          simp only [sameWord, Bool.and_eq_true] at same
          obtain ⟨⟨⟨firstIs, nextIs⟩, _⟩, _⟩ := same
          have all := inductionHypothesis joinedLater (by simp [nextIs])
          rw [List.all_cons, firstIs, all]
          rfl

/-- The words of a text have no slash. -/
theorem slash_notMem_of_mem_words {text word : List Char} (listed : word ∈ words text) :
    '/' ∉ word := by
  intro slash
  obtain ⟨group, holdsOne⟩ := List.mem_filter.mp listed
  have all := all_isAlphanumeric_of_isChain (List.isChain_of_mem_splitBy group) holdsOne
  exact absurd (List.all_eq_true.mp all '/' slash) (by decide)

/-- A name in snake_case has a slash only when the name has one and has no words. -/
theorem slash_mem_of_mem_snake {text : List Char} (member : '/' ∈ snake text) :
    '/' ∈ text ∧ words text = [] := by
  rw [snake] at member
  split at member
  next wordless =>
    exact ⟨Unicode.slash_mem_of_mem_lowerAfter member, List.isEmpty_iff.mp wordless⟩
  next =>
    rcases mem_of_mem_intercalate member with separator | ⟨lowered, listed, within⟩
    · exact absurd separator (by decide)
    · obtain ⟨word, isWord, rfl⟩ := List.mem_map.mp listed
      have slash := Unicode.slash_mem_of_mem_lowerAfter within
      exact absurd slash (slash_notMem_of_mem_words isWord)

end Naming

/-- A root model has a slash in its name only when the given name has one. -/
theorem Extraction.slash_mem_of_mem_rootName {given : String}
    (member : '/' ∈ (rootName given).toList) : '/' ∈ given.toList := by
  rcases rootName_cases given with unnamed | ⟨_, ofGiven⟩
  · rw [unnamed] at member
    exact absurd member (by decide)
  · rw [ofGiven, Naming.pascalCase, String.toList_ofList] at member
    exact Naming.slash_mem_of_mem_pascal member

namespace Language

/-- A file has a slash in its name only when the root model has one, and in Dart only when the root
model has no words in its name. -/
theorem slash_mem_of_mem_fileName {language : Language} {root : String}
    (member : '/' ∈ (language.fileName root).toList) :
    '/' ∈ root.toList ∧ (language = .dart → Naming.words root.toList = []) := by
  cases language with
  | typeScript =>
      refine ⟨?_, nofun⟩
      rw [fileName, TypeScript.fileName] at member
      split at member
      · exact member
      · simpa using member
  | dart =>
      rw [fileName, Dart.fileName, Naming.snakeCase, String.toList_ofList] at member
      obtain ⟨slash, wordless⟩ := Naming.slash_mem_of_mem_snake member
      exact ⟨slash, fun _ => wordless⟩
  | kotlin => exact ⟨member, nofun⟩

theorem endsName_extension (language : Language) : Path.EndsName ("." ++ language.extension) := by
  cases language <;> exact ⟨by decide, _, rfl, by decide⟩

end Language

namespace Generation

/-- A generation in a language that is named suggests the file name for the root model. -/
theorem fileName_of_run {value : Json} {language : Language}
    (named : Language.parse value = .ok language) {document : Json} {given : String}
    {options : Options} {generation : Generation}
    (generated : run value document given options = .ok generation) :
    generation.language = language ∧
      generation.fileName = language.fileName (Extraction.rootName given) := by
  cases valid : options.validatedFor language with
  | error error =>
      rw [run_of_named named, inLanguage, valid] at generated
      cases generated
  | ok checked =>
      rw [run_of_checked named valid] at generated
      cases extracted : Extraction.ofDocument checked.nullSafety.truthy given document with
      | error error =>
          rw [extracted] at generated
          cases generated
      | ok extraction =>
          obtain ⟨members, _, rfl⟩ := Extraction.ofDocument_eq_ok_iff.mp extracted
          rw [extracted] at generated
          obtain rfl := Except.ok.inj generated
          refine ⟨rfl, ?_⟩
          rw [ofExtraction, Language.fileName_emit, Extraction.root_ofMembers]
          rfl

/-- The suggested path is absolute when the file name is. -/
theorem isAbsolute_suggestedPath (generation : Generation) :
    Path.isAbsolute generation.suggestedPath = Path.isAbsolute generation.fileName := by
  rw [suggestedPath, String.append_assoc]
  by_cases empty : generation.fileName = ""
  · rw [empty]
    cases generation.language <;> decide
  · exact Path.isAbsolute_append empty _

/-- A relative file name leads to a child of a directory exactly when all of its components but the
last are idle. -/
theorem isChild_join_iff {generation : Generation}
    (relative : Path.isAbsolute generation.fileName = false) (directory : String) :
    Path.IsChild directory (Path.join directory generation.suggestedPath) ↔
      ∀ component ∈ (Path.components generation.fileName).dropLast,
        Path.isIdle component = true := by
  rw [← isAbsolute_suggestedPath, suggestedPath, String.append_assoc] at relative
  rw [suggestedPath, String.append_assoc]
  exact Path.isChild_join_append_iff generation.language.endsName_extension relative

/-- A file name without a slash leads to a child of a directory. -/
theorem isChild_join_of_unslashed {generation : Generation}
    (unslashed : '/' ∉ generation.fileName.toList) (directory : String) :
    Path.IsChild directory (Path.join directory generation.suggestedPath) := by
  have relative : Path.isAbsolute generation.fileName = false := by
    rw [Path.isAbsolute, beq_eq_false_iff_ne]
    intro starts
    exact unslashed (List.mem_of_mem_head? starts)
  rw [isChild_join_iff relative, Path.components_of_unslashed unslashed]
  exact List.forall_mem_nil _

end Generation

namespace CommandLine

section

variable (workingDirectory : Place) (standardInput : Contents) (arguments : List String)
  (tree : FileTree) (given : Arguments) (inputs : Inputs) (directory : String)
  (generation : Generation)

/-- A command writes into a directory when it opens the suggested path behind the directory and no
other file. A relative file name leads to a child of the directory exactly when all of its
components but the last are idle, and an absolute one leads away from every directory. A root name
without a slash always leads to a child, and in Dart every root name with a word does. -/
structure WritesIntoDirectory : Prop where
  suggests : generation.language = inputs.language ∧
    generation.fileName = inputs.language.fileName
      (Extraction.rootName (given.name.getD Extraction.defaultRootName))
  opens : runIn workingDirectory standardInput arguments tree =
    match tree.write workingDirectory (Path.join directory generation.suggestedPath)
        generation.code with
    | .ok written =>
        (.finished 0 "" (noticeText given generation.notices ++ ControlSequence.shown
          ("Wrote " ++ Path.join directory generation.suggestedPath ++ "\n")), written)
    | .error failure => (.aborted (.file failure) (noticeText given generation.notices), tree)
  relative : Path.isAbsolute generation.fileName = false →
    (Path.IsChild directory (Path.join directory generation.suggestedPath) ↔
      ∀ component ∈ (Path.components generation.fileName).dropLast,
        Path.isIdle component = true)
  absolute : Path.isAbsolute generation.fileName = true →
    ∀ other, Path.join directory generation.suggestedPath =
      Path.join other generation.suggestedPath
  unslashed : '/' ∉ (given.name.getD Extraction.defaultRootName).toList →
    Path.IsChild directory (Path.join directory generation.suggestedPath)
  worded : inputs.language = .dart →
    Naming.words
      (Extraction.rootName (given.name.getD Extraction.defaultRootName)).toList ≠ [] →
    Path.IsChild directory (Path.join directory generation.suggestedPath)
  placed : ∀ written,
    Path.IsChild directory (Path.join directory generation.suggestedPath) →
    tree.write workingDirectory (Path.join directory generation.suggestedPath)
      generation.code = .ok written →
    ∃ place name, tree.locate workingDirectory directory = .ok place ∧
      FileTree.DiffersAt (place ++ [name]) generation.code tree written

end

variable {workingDirectory : Place} {standardInput : Contents} {tree : FileTree} {given : Arguments}
  {inputs : Inputs} {directory : String} {generation : Generation}

/-- A command generates in the language of its inputs and suggests the file name for its root
name. -/
theorem Generates.suggests {document : Contents}
    (generates : Generates given inputs document generation) :
    generation.language = inputs.language ∧
      generation.fileName = inputs.language.fileName
        (Extraction.rootName (given.name.getD Extraction.defaultRootName)) := by
  cases generates with
  | intro _ _ generated =>
      exact Generation.fileName_of_run (Language.parse_name inputs.language) generated

/-- A command whose output is a directory writes into that directory. -/
theorem writes_into_directory {arguments : List String}
    (parsed : Arguments.parse? arguments = some given)
    (accepts : Accepts tree workingDirectory given inputs) (generating : given.listStyles = false)
    (generates : Generates given inputs (inputs.document.getD standardInput) generation)
    (output : inputs.output = some directory)
    (isDirectory : tree.isDirectory workingDirectory directory = true) :
    WritesIntoDirectory workingDirectory standardInput arguments tree given inputs directory
      generation := by
  have targeted : target tree workingDirectory directory generation =
      Path.join directory generation.suggestedPath := if_pos isDirectory
  obtain ⟨language, fileName⟩ := generates.suggests
  exact
    { suggests := ⟨language, fileName⟩
      opens := by
        rw [runIn_of_accepts parsed accepts, run_runChecked generating,
          generate_of_generates generates, output, ← targeted]
        dsimp only
        cases wrote : tree.write workingDirectory
            (target tree workingDirectory directory generation) generation.code with
        | ok written =>
            rw [run_deliver_of_ok wrote]
            rfl
        | error failure =>
            rw [run_deliver_of_error wrote]
            rfl
      relative := fun relative => Generation.isChild_join_iff relative directory
      absolute := by
        intro absolute other
        rw [← Generation.isAbsolute_suggestedPath] at absolute
        rw [Path.join, Path.join, if_pos absolute, if_pos absolute]
      unslashed := by
        intro unslashed
        apply Generation.isChild_join_of_unslashed
        intro slash
        rw [fileName] at slash
        have inRoot := (Language.slash_mem_of_mem_fileName slash).1
        exact unslashed (Extraction.slash_mem_of_mem_rootName inRoot)
      worded := by
        intro isDart worded
        apply Generation.isChild_join_of_unslashed
        intro slash
        rw [fileName] at slash
        exact worded ((Language.slash_mem_of_mem_fileName slash).2 isDart)
      placed := by
        intro written child wrote
        obtain ⟨reached, locatedPath, differs⟩ := FileTree.differsAt_of_write wrote
        obtain ⟨place, located⟩ := FileTree.exists_place_of_isDirectory isDirectory
        obtain ⟨name, rfl⟩ := FileTree.exists_name_of_isChild child located locatedPath
        exact ⟨place, name, located, differs⟩ }

/-- In this tree there is one directory. -/
def outputTree : FileTree where
  directories := [["out"]]
  files := []

/-- These are the arguments of a command that gives a name and writes into the directory. -/
def namedArguments (name : String) (languageName : Option String) : Arguments where
  valued := .name :: if languageName.isSome then [.language] else []
  name := some name
  languageName := languageName
  paths := ["-", "out"]

def outputInputs (language : Language) (named : Bool) : Inputs where
  language := language
  named := named
  output := some "/out"

/-- A Dart file for a name with a slash and two words is written into the directory. -/
theorem slashedName_writes_into_directory :
    Arguments.parse? ["-n", "a/b", "-l", "dart", "-", "out"] =
        some (namedArguments "a/b" (some "dart")) ∧
      Accepts outputTree [] (namedArguments "a/b" (some "dart")) (outputInputs .dart true) ∧
      outputTree.isDirectory [] "/out" = true ∧
      ∃ generation, generation.suggestedPath = "a_b.dart" ∧
        Generates (namedArguments "a/b" (some "dart")) (outputInputs .dart true) "\x7b\x7d"
          generation ∧
        WritesIntoDirectory [] "\x7b\x7d" ["-n", "a/b", "-l", "dart", "-", "out"] outputTree
          (namedArguments "a/b" (some "dart")) (outputInputs .dart true) "/out" generation := by
  have parsed : Arguments.parse? ["-n", "a/b", "-l", "dart", "-", "out"] =
      some (namedArguments "a/b" (some "dart")) := by decide
  have accepts : Accepts outputTree [] (namedArguments "a/b" (some "dart"))
      (outputInputs .dart true) :=
    (checkAll_eq_ok_iff "" parsed).mp rfl
  have isDirectory : outputTree.isDirectory [] "/out" = true := by decide
  have path : (generate (namedArguments "a/b" (some "dart")) .dart none "\x7b\x7d").toOption.map
      Generation.suggestedPath = some "a_b.dart" := by
    decide +kernel
  obtain ⟨generation, generates, suggested⟩ :=
    @exists_generates _ (outputInputs .dart true) _ _ _ _ path
  exact ⟨parsed, accepts, isDirectory, generation, suggested, generates,
    writes_into_directory parsed accepts rfl generates rfl isDirectory⟩

/-- A name that leads upwards makes a command write beside the directory. -/
theorem upwardName_leaves_directory :
    Arguments.parse? ["-n", "../x", "-", "out"] = some (namedArguments "../x" none) ∧
      Accepts outputTree [] (namedArguments "../x" none) (outputInputs .typeScript false) ∧
      outputTree.isDirectory [] "/out" = true ∧
      ∃ generation,
        Generates (namedArguments "../x" none) (outputInputs .typeScript false) "\x7b\x7d"
          generation ∧
        ¬ Path.IsChild "/out" (Path.join "/out" generation.suggestedPath) ∧
        (runIn [] "\x7b\x7d" ["-n", "../x", "-", "out"] outputTree).2 =
          { outputTree with files := [(["xModel.ts"], generation.code)] } := by
  have parsed : Arguments.parse? ["-n", "../x", "-", "out"] =
      some (namedArguments "../x" none) := by decide
  have accepts : Accepts outputTree [] (namedArguments "../x" none)
      (outputInputs .typeScript false) :=
    (checkAll_eq_ok_iff "" parsed).mp rfl
  have observed : (generate (namedArguments "../x" none) .typeScript none
      "\x7b\x7d").toOption.map (fun generation => (generation.fileName, generation.code)) =
        some ("../xModel", "export class ../x \x7b\n\n  constructor() \x7b\n  \x7d\n\x7d\n") := by
    decide +kernel
  have ended : (runIn [] "\x7b\x7d" ["-n", "../x", "-", "out"] outputTree).2 =
      { outputTree with files := [(["xModel.ts"],
        "export class ../x \x7b\n\n  constructor() \x7b\n  \x7d\n\x7d\n")] } := by
    decide +kernel
  obtain ⟨generation, generates, same⟩ :=
    @exists_generates _ (outputInputs .typeScript false) _ _ _ _ observed
  obtain ⟨fileName, code⟩ := Prod.mk.inj same
  refine ⟨parsed, accepts, by decide, generation, generates, ?_, ?_⟩
  · have relative : Path.isAbsolute generation.fileName = false := by
      rw [fileName]
      decide
    rw [Generation.isChild_join_iff relative, fileName]
    decide
  · rw [ended, code]

end CommandLine

end Exemplar
