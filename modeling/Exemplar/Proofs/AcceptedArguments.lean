import Exemplar.CommandLine.Run
import Exemplar.Proofs.WrittenFiles

namespace Exemplar

namespace Arguments

/-- This function returns the value of an option. -/
def value? (given : Arguments) : ValuedOption → Option String
  | .name => given.name
  | .config => given.config
  | .language => given.languageName
  | .serialization => given.serialization
  | .package => given.package

/-- The arguments note their options when the options that are noted are those with a value. -/
def NotesOptions (given : Arguments) : Prop :=
  ∀ option, option ∈ given.valued ↔ ∃ value, given.value? option = some value

theorem NotesOptions.addPath {given : Arguments} (notes : given.NotesOptions) (path : String) :
    (given.addPath path).NotesOptions := notes

theorem NotesOptions.turn {given : Arguments} (notes : given.NotesOptions) (switch : Switch) :
    (given.turn switch).NotesOptions := by
  cases switch <;> exact notes

/-- An option that is noted stays noted, and one more is. -/
theorem mem_valued_assign {given : Arguments} {value : String} {option other : ValuedOption} :
    other ∈ (given.assign value option).valued ↔ other ∈ given.valued ∨ other = option := by
  have valued : (given.assign value option).valued = (given.mention option).valued := by
    cases option <;> rfl
  rw [valued, mention]
  by_cases known : option ∈ given.valued
  · rw [if_pos known]
    constructor
    · exact Or.inl
    · intro either
      rcases either with same | rfl
      · exact same
      · exact known
  · rw [if_neg known]
    simp

/-- An option takes its value, and all others keep theirs. -/
theorem value?_assign (given : Arguments) (value : String) (option other : ValuedOption) :
    (given.assign value option).value? other =
      if other = option then some value else given.value? other := by
  have kept (sought : ValuedOption) :
      (given.mention option).value? sought = given.value? sought := by
    rw [mention]
    split
    · rfl
    · cases sought <;> rfl
  rw [← kept other]
  cases option <;> cases other <;> rfl

/-- Reading an option with its value notes the option. -/
theorem NotesOptions.assign {given : Arguments} (notes : given.NotesOptions) (value : String)
    (option : ValuedOption) : (given.assign value option).NotesOptions := by
  intro other
  rw [mem_valued_assign, value?_assign]
  by_cases same : other = option
  · simp [same]
  · simp [same, notes other]

/-- A run over the arguments notes all options that it gives a value to. -/
theorem NotesOptions.scan {given : Arguments} (notes : given.NotesOptions)
    {arguments : List String} {read : Arguments} (success : scan given arguments = some read) :
    read.NotesOptions := by
  have turned (given : Arguments) (switches : List Switch) (notes : given.NotesOptions) :
      (switches.foldl Arguments.turn given).NotesOptions := by
    induction switches generalizing given with
    | nil => exact notes
    | cons first rest inductionHypothesis => exact inductionHypothesis _ (notes.turn first)
  have passed (given : Arguments) (paths : List String) (notes : given.NotesOptions) :
      (paths.foldl Arguments.addPath given).NotesOptions := by
    induction paths generalizing given with
    | nil => exact notes
    | cons first rest inductionHypothesis => exact inductionHypothesis _ (notes.addPath first)
  fun_induction Arguments.scan given arguments with
  | case1 given => exact Option.some.inj success ▸ notes
  | case2 given argument rest path inductionHypothesis =>
      exact inductionHypothesis (notes.addPath argument) success
  | case3 given argument rest ended =>
      exact Option.some.inj success ▸ passed given rest notes
  | case4 => cases success
  | case5 given argument rest reading isReading turnedGiven none inductionHypothesis =>
      exact inductionHypothesis (turned given reading.switches notes) success
  | case6 given argument rest reading isReading turnedGiven option value found
      inductionHypothesis =>
      exact inductionHypothesis ((turned given reading.switches notes).assign value option) success
  | case7 => cases success
  | case8 given argument reading isReading turnedGiven option found value later
      inductionHypothesis =>
      exact inductionHypothesis ((turned given reading.switches notes).assign value option) success

/-- The arguments of a command line note their options. -/
theorem notesOptions_of_parse? {arguments : List String} {given : Arguments}
    (parsed : parse? arguments = some given) : given.NotesOptions := by
  have start : ({} : Arguments).NotesOptions := by
    intro option
    cases option <;> simp [value?]
  exact start.scan parsed

end Arguments

namespace CommandLine

section

variable (tree : FileTree) (workingDirectory : Place) (given : Arguments)

/-- The configuration of a run is the file whose path is given, if there is one. -/
inductive FindsConfiguration : Option (String × Contents) → Prop where
  | absent (unconfigured : given.config = none) : FindsConfiguration none
  | file {path : String} {contents : Contents} (configured : given.config = some path)
      (plain : '\x00' ∉ path.toList)
      (read : tree.read workingDirectory (Path.resolve (Path.absolute workingDirectory) path) =
        .ok contents) :
      FindsConfiguration (some (Path.resolve (Path.absolute workingDirectory) path, contents))

/-- The document of a run is the file at the first path, unless a hyphen stands for the standard
input. -/
inductive FindsDocument : Option Contents → Prop where
  | standardInput (hyphen : given.documentPath = "-") : FindsDocument none
  | file {contents : Contents} (named : given.documentPath ≠ "-")
      (read : tree.read workingDirectory given.documentPath = .ok contents) :
      FindsDocument (some contents)

/-- The output of a run is the second path, if there is one. -/
inductive FindsOutput : Option String → Prop where
  | absent (untargeted : given.outputPath? = none) : FindsOutput none
  | path {path : String} (targeted : given.outputPath? = some path) (plain : '\x00' ∉ path.toList) :
      FindsOutput (some (Path.resolve (Path.absolute workingDirectory) path))

/-- This is what a check of the arguments establishes about the inputs of a run. -/
def Establishes (inputs : Inputs) : Arguments.Check → Prop
  | .language => given.language? = some (inputs.language, inputs.named)
  | .configuration => FindsConfiguration tree workingDirectory given inputs.configuration
  | .document => FindsDocument tree workingDirectory given inputs.document
  | .output => FindsOutput workingDirectory given inputs.output
  | .pathCount => given.paths.length ≤ 2

/-- The arguments are accepted with some inputs when all checks establish them. -/
def Accepts (inputs : Inputs) : Prop :=
  ∀ check, Establishes tree workingDirectory given inputs check

end

/-- An action looks for a value when it leaves the files alone and returns a value that is sought,
or fails because finding one is not possible. -/
def LooksFor {α : Type} (tree : FileTree) (possible : Prop) (sought : α → Prop)
    (action : StateM FileTree (Except Outcome α)) : Prop :=
  (∃ value, action.run tree = pure (.ok value, tree) ∧ sought value) ∨
    ∃ outcome, action.run tree = pure (.error outcome, tree) ∧ ¬ possible

variable {tree : FileTree} {workingDirectory : Place} {standardInput : Contents}
  {given : Arguments}

/-- The configuration is looked for. -/
theorem looksFor_openConfiguration :
    LooksFor tree (∃ found, FindsConfiguration tree workingDirectory given found)
      (FindsConfiguration tree workingDirectory given)
      (openConfiguration (FileTree.surroundings workingDirectory standardInput) given) := by
  cases configured : given.config with
  | none => exact .inl ⟨none, by simp [openConfiguration, configured], .absent configured⟩
  | some path =>
      by_cases nul : '\x00' ∈ path.toList
      · refine .inr ⟨refusal .nulCharacter, by simp [openConfiguration, configured, nul], ?_⟩
        intro possible
        obtain ⟨_, found⟩ := possible
        cases found with
        | absent unconfigured => cases configured.symm.trans unconfigured
        | file other plain =>
            cases configured.symm.trans other
            exact plain nul
      · cases read : tree.read workingDirectory
            (Path.resolve (Path.absolute workingDirectory) path) with
        | error failure =>
            refine .inr ⟨refusal failure, by simp [openConfiguration, configured, nul, read], ?_⟩
            intro possible
            obtain ⟨_, found⟩ := possible
            cases found with
            | absent unconfigured => cases configured.symm.trans unconfigured
            | file other _ readOther =>
                cases configured.symm.trans other
                cases read.symm.trans readOther
        | ok contents =>
            exact .inl ⟨_, by simp [openConfiguration, configured, nul, read],
              .file configured nul read⟩

/-- The document is looked for. -/
theorem looksFor_openDocument :
    LooksFor tree (∃ found, FindsDocument tree workingDirectory given found)
      (FindsDocument tree workingDirectory given)
      (openDocument (FileTree.surroundings workingDirectory standardInput) given) := by
  by_cases hyphen : given.documentPath = "-"
  · exact .inl ⟨none, by simp [openDocument, hyphen], .standardInput hyphen⟩
  · cases read : tree.read workingDirectory given.documentPath with
    | error failure =>
        refine .inr ⟨refusal failure, by simp [openDocument, hyphen, read], ?_⟩
        intro possible
        obtain ⟨_, found⟩ := possible
        cases found with
        | standardInput isHyphen => exact hyphen isHyphen
        | file _ readOther => cases read.symm.trans readOther
    | ok contents =>
        exact .inl ⟨some contents, by simp [openDocument, hyphen, read], .file hyphen read⟩

/-- The output is looked for. -/
theorem looksFor_resolveOutput :
    LooksFor tree (∃ found, FindsOutput workingDirectory given found)
      (FindsOutput workingDirectory given)
      (resolveOutput (FileTree.surroundings workingDirectory standardInput) given) := by
  cases targeted : given.outputPath? with
  | none => exact .inl ⟨none, by simp [resolveOutput, targeted], .absent targeted⟩
  | some path =>
      by_cases nul : '\x00' ∈ path.toList
      · refine .inr ⟨refusal .nulCharacter, by simp [resolveOutput, targeted, nul], ?_⟩
        intro possible
        obtain ⟨_, found⟩ := possible
        cases found with
        | absent untargeted => cases targeted.symm.trans untargeted
        | path other plain =>
            cases targeted.symm.trans other
            exact plain nul
      · exact .inl ⟨_, by simp [resolveOutput, targeted, nul], .path targeted nul⟩

/-- What is looked for is passed on in the inputs. -/
theorem LooksFor.map {α : Type} {sought : α → Prop} {action : StateM FileTree (Except Outcome α)}
    (looks : LooksFor tree (∃ value, sought value) sought action) {possible : Prop}
    {within : Inputs → Prop} {take : α → Inputs}
    (takes : ∀ value, sought value → within (take value))
    (source : possible → ∃ value, sought value) :
    LooksFor tree possible within (do
      let found ← action
      pure (found.map take)) := by
  rcases looks with ⟨value, run, found⟩ | ⟨outcome, run, nowhere⟩
  · exact .inl ⟨take value, by simp [run, Except.map], takes value found⟩
  · exact .inr ⟨outcome, by simp [run, Except.map], mt source nowhere⟩

section

variable (tree workingDirectory given)

/-- A check establishes its part of the inputs and keeps the others. -/
def EstablishesOnly (inputs : Inputs) (check : Arguments.Check) (checked : Inputs) : Prop :=
  Establishes tree workingDirectory given checked check ∧
    ∀ other, other ≠ check →
      (Establishes tree workingDirectory given checked other ↔
        Establishes tree workingDirectory given inputs other)

end

/-- A check looks for its part of the inputs. -/
theorem looksFor_perform (inputs : Inputs) (check : Arguments.Check) :
    LooksFor tree (∃ final, Establishes tree workingDirectory given final check)
      (EstablishesOnly tree workingDirectory given inputs check)
      (perform (FileTree.surroundings workingDirectory standardInput) given inputs check) := by
  cases check with
  | language =>
      cases language : given.language? with
      | none =>
          refine .inr ⟨.usage, by simp [perform, language], ?_⟩
          intro possible
          obtain ⟨final, established⟩ := possible
          cases language.symm.trans established
      | some found =>
          refine .inl ⟨{ inputs with language := found.1, named := found.2 },
            by simp [perform, language], language, ?_⟩
          intro other apart
          cases other with
          | language => exact absurd rfl apart
          | _ => exact Iff.rfl
  | configuration =>
      apply looksFor_openConfiguration.map
      · intro configuration found
        refine ⟨found, ?_⟩
        intro other apart
        cases other with
        | configuration => exact absurd rfl apart
        | _ => exact Iff.rfl
      · intro possible
        obtain ⟨final, established⟩ := possible
        exact ⟨_, established⟩
  | document =>
      apply looksFor_openDocument.map
      · intro document found
        refine ⟨found, ?_⟩
        intro other apart
        cases other with
        | document => exact absurd rfl apart
        | _ => exact Iff.rfl
      · intro possible
        obtain ⟨final, established⟩ := possible
        exact ⟨_, established⟩
  | output =>
      apply looksFor_resolveOutput.map
      · intro output found
        refine ⟨found, ?_⟩
        intro other apart
        cases other with
        | output => exact absurd rfl apart
        | _ => exact Iff.rfl
      · intro possible
        obtain ⟨final, established⟩ := possible
        exact ⟨_, established⟩
  | pathCount =>
      by_cases few : given.paths.length ≤ 2
      · refine .inl ⟨inputs, by simp [perform, few], few, ?_⟩
        intro other _
        exact Iff.rfl
      · refine .inr ⟨.usage, by simp [perform, few], ?_⟩
        intro possible
        obtain ⟨_, established⟩ := possible
        exact few established

/-- A run over the checks looks for inputs that all of them establish. -/
theorem looksFor_checkAll (inputs : Inputs) (checks : List Arguments.Check) :
    LooksFor tree
      (∃ final, ∀ check ∈ checks, Establishes tree workingDirectory given final check)
      (fun final => (∀ check ∈ checks, Establishes tree workingDirectory given final check) ∧
        ∀ other, other ∉ checks →
          (Establishes tree workingDirectory given final other ↔
            Establishes tree workingDirectory given inputs other))
      (checkAll (FileTree.surroundings workingDirectory standardInput) given inputs checks) := by
  induction checks generalizing inputs with
  | nil =>
      refine .inl ⟨inputs, rfl, ?_, ?_⟩
      · intro check absent
        cases absent
      · intro other _
        exact Iff.rfl
  | cons first rest inductionHypothesis =>
      rcases looksFor_perform inputs first with ⟨checked, run, established, kept⟩ | failure
      · rcases inductionHypothesis checked with ⟨final, runRest, all, keptRest⟩ | failure
        · refine .inl ⟨final, ?_, ?_, ?_⟩
          · rw [checkAll, StateT.run_bind, run, pure_bind]
            exact runRest
          · intro check member
            by_cases again : check ∈ rest
            · exact all check again
            · obtain rfl := (List.mem_cons.mp member).resolve_right again
              exact (keptRest check again).mpr established
          · intro other absent
            rw [List.mem_cons, not_or] at absent
            exact (keptRest other absent.2).trans (kept other absent.1)
        · obtain ⟨outcome, runRest, notPossible⟩ := failure
          refine .inr ⟨outcome, ?_, ?_⟩
          · rw [checkAll, StateT.run_bind, run, pure_bind]
            exact runRest
          · intro possible
            obtain ⟨final, all⟩ := possible
            exact notPossible ⟨final, (List.forall_mem_cons.mp all).2⟩
      · obtain ⟨outcome, run, notPossible⟩ := failure
        refine .inr ⟨outcome, ?_, ?_⟩
        · rw [checkAll, StateT.run_bind, run, pure_bind]
          rfl
        · intro possible
          obtain ⟨final, all⟩ := possible
          exact notPossible ⟨final, (List.forall_mem_cons.mp all).1⟩

/-- The configuration that is found is the only one. -/
theorem FindsConfiguration.unique {found other : Option (String × Contents)}
    (finds : FindsConfiguration tree workingDirectory given found)
    (findsOther : FindsConfiguration tree workingDirectory given other) : found = other := by
  cases finds with
  | absent unconfigured =>
      cases findsOther with
      | absent => rfl
      | file configured => cases unconfigured.symm.trans configured
  | file configured _ read =>
      cases findsOther with
      | absent unconfigured => cases unconfigured.symm.trans configured
      | file configuredOther _ readOther =>
          cases configured.symm.trans configuredOther
          cases read.symm.trans readOther
          rfl

/-- The document that is found is the only one. -/
theorem FindsDocument.unique {found other : Option Contents}
    (finds : FindsDocument tree workingDirectory given found)
    (findsOther : FindsDocument tree workingDirectory given other) : found = other := by
  cases finds with
  | standardInput hyphen =>
      cases findsOther with
      | standardInput => rfl
      | file named => exact absurd hyphen named
  | file named read =>
      cases findsOther with
      | standardInput hyphen => exact absurd hyphen named
      | file _ readOther =>
          cases read.symm.trans readOther
          rfl

/-- The output that is found is the only one. -/
theorem FindsOutput.unique {found other : Option String}
    (finds : FindsOutput workingDirectory given found)
    (findsOther : FindsOutput workingDirectory given other) : found = other := by
  cases finds with
  | absent untargeted =>
      cases findsOther with
      | absent => rfl
      | path targeted => cases untargeted.symm.trans targeted
  | path targeted =>
      cases findsOther with
      | absent untargeted => cases untargeted.symm.trans targeted
      | path targetedOther =>
          cases targeted.symm.trans targetedOther
          rfl

/-- Arguments are accepted with one result only. -/
theorem Accepts.unique {inputs others : Inputs}
    (accepts : Accepts tree workingDirectory given inputs)
    (acceptsOthers : Accepts tree workingDirectory given others) : inputs = others := by
  have language : (inputs.language, inputs.named) = (others.language, others.named) :=
    Option.some.inj ((accepts .language).symm.trans (acceptsOthers .language))
  obtain ⟨sameLanguage, sameNamed⟩ := Prod.mk.inj language
  have configuration : inputs.configuration = others.configuration :=
    FindsConfiguration.unique (accepts .configuration) (acceptsOthers .configuration)
  have document : inputs.document = others.document :=
    FindsDocument.unique (accepts .document) (acceptsOthers .document)
  have output : inputs.output = others.output :=
    FindsOutput.unique (accepts .output) (acceptsOthers .output)
  cases inputs
  cases others
  congr

/-- A check that is not made has nothing to establish. -/
theorem establishes_of_not_mem_checks (notes : given.NotesOptions) {check : Arguments.Check}
    (unchecked : check ∉ given.checks) : Establishes tree workingDirectory given {} check := by
  have absent (option : ValuedOption) (sought : Arguments.Check.ofOption? option = some check) :
      given.value? option = none := by
    rw [Option.eq_none_iff_forall_ne_some]
    intro value found
    have noted := (notes option).mpr ⟨value, found⟩
    exact unchecked (List.mem_append_left _ (List.mem_filterMap.mpr ⟨option, noted, sought⟩))
  have last (member : check ∈ [Arguments.Check.document, .output, .pathCount]) : False :=
    unchecked (List.mem_append_right _ member)
  cases check with
  | language =>
      have unnamed : given.languageName = none := absent .language rfl
      rw [Establishes, Arguments.language?, unnamed]
  | configuration => exact .absent (absent .config rfl)
  | document => exact (last (by decide)).elim
  | output => exact (last (by decide)).elim
  | pathCount => exact (last (by decide)).elim

/-- The checks of a command line succeed exactly with the inputs that the arguments are accepted
with, and they leave the files alone. -/
theorem checkAll_eq_ok_iff (standardInput : Contents) {arguments : List String}
    (parsed : Arguments.parse? arguments = some given) {inputs : Inputs} :
    (checkAll (FileTree.surroundings workingDirectory standardInput) given {}
        given.checks).run tree = pure (.ok inputs, tree) ↔
      Accepts tree workingDirectory given inputs := by
  have notes := Arguments.notesOptions_of_parse? parsed
  have looks : LooksFor tree _ _ (checkAll (FileTree.surroundings workingDirectory standardInput)
      given {} given.checks) := looksFor_checkAll {} given.checks
  rcases looks with ⟨final, run, all, kept⟩ | ⟨outcome, run, notPossible⟩
  · have accepted : Accepts tree workingDirectory given final := by
      intro check
      by_cases checked : check ∈ given.checks
      · exact all check checked
      · exact (kept check checked).mpr (establishes_of_not_mem_checks notes checked)
    rw [run]
    constructor
    · intro same
      cases same
      exact accepted
    · intro accepts
      rw [accepts.unique accepted]
  · rw [run]
    constructor
    · intro same
      cases same
    · intro accepts
      exact absurd ⟨inputs, fun check _ => accepts check⟩ notPossible

end CommandLine

end Exemplar
