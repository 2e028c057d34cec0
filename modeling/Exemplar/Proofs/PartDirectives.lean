import Exemplar.Proofs.DirectoryTargets
import Exemplar.Proofs.PathNames
import Exemplar.Proofs.StyleDeclarations

/-
Part directives. The part of a Dart file is named after the suggested file, whatever the output of
the command is. A command that writes into a directory gives its file that name unless a slash cuts
it, but any other output has a name of its own.
-/

namespace Exemplar

/-- A file with two parts above its classes starts with these parts. -/
theorem exists_below_fileText (first second : String) (classes : List ClassLines) :
    ∃ below, fileText [first, second] classes =
      first ++ "\n\n" ++ second ++ "\n" ++ below := by
  rw [fileText]
  cases classes.map fun declared => "\n".intercalate declared.lines with
  | nil => exact ⟨"", by simp⟩
  | cons third rest =>
      have blankLine : "\n\n" = "\n" ++ "\n" := rfl
      refine ⟨"\n" ++ "\n\n".intercalate (third :: rest) ++ "\n", ?_⟩
      rw [List.cons_append, List.singleton_append, String.intercalate_cons_cons,
        String.intercalate_cons_cons]
      generalize "\n\n".intercalate (third :: rest) = below
      rw [blankLine]
      simp only [String.append_assoc]

namespace Dart

/-- Code with a generated part starts with the import of its annotations, a blank line, and the
line that names the part. -/
def partLines (part : String) : String :=
  "import 'package:json_annotation/json_annotation.dart';" ++ "\n\n" ++
    ("part '" ++ part ++ ".g.dart';") ++ "\n"

/-- The code tells the part of its directives, unless a quote cuts it. -/
theorem eq_of_partLines_append {first second firstBelow secondBelow : String}
    (firstUncut : '\'' ∉ first.toList) (secondUncut : '\'' ∉ second.toList)
    (same : partLines first ++ firstBelow = partLines second ++ secondBelow) : first = second := by
  have beforeQuote {name : List Char} (uncut : '\'' ∉ name) (below : List Char) :
      (name ++ (".g.dart';".toList ++ below)).takeWhile (fun character => character != '\'') =
        name ++ ".g.dart".toList := by
    have within : ∀ character ∈ name, (character != '\'') = true := by
      intro character member
      exact bne_iff_ne.mpr fun isQuote => uncut (isQuote ▸ member)
    rw [List.takeWhile_append_of_pos within]
    rfl
  have characters := congrArg String.toList same
  unfold partLines at characters
  simp only [String.toList_append, List.append_assoc] at characters
  have named := List.append_cancel_left (List.append_cancel_left
    (List.append_cancel_left characters))
  have cut := congrArg (List.takeWhile fun character => character != '\'') named
  simp only [beforeQuote firstUncut, beforeQuote secondUncut] at cut
  exact String.toList_inj.mp (List.append_cancel_right cut)

/-- The code for generated routines starts with the directives of its part. -/
theorem exists_below_partLines {settings : Settings}
    (serialized : settings.style = some .jsonSerializable) (set : ModelSet) :
    ∃ below, (Language.dart.emit settings set).code =
      partLines (fileName set.root.name) ++ below := by
  have part : (file settings set).part = some (fileName set.root.name) := if_pos serialized
  rw [Language.code_emit, Language.header, File.directives, part]
  exact exists_below_fileText _ _ _

end Dart

namespace Generation

/-- A generation for generated routines starts with the directives of the part of its suggested
file. -/
theorem exists_below_of_inLanguage {document : Json} {given : String} {options : Options}
    (serializable : Language.dart.normalizeStyle options.serializationStyle =
      .ok .jsonSerializable) {generation : Generation}
    (generated : inLanguage .dart document given options = .ok generation) :
    ∃ below, generation.code = Dart.partLines generation.fileName ++ below := by
  have styled : options = options.withStyle options.serializationStyle := rfl
  rw [styled, inLanguage_withStyle serializable] at generated
  cases extracted : Extraction.ofDocument options.nullSafety.truthy given document with
  | error error =>
      rw [extracted] at generated
      cases generated
  | ok extraction =>
      rw [extracted] at generated
      obtain rfl := Except.ok.inj generated
      refine Dart.exists_below_partLines ?_ extraction.models
      rw [Options.settings_withStyle]
      rfl

end Generation

namespace CommandLine

variable {workingDirectory : Place} {standardInput : Contents} {tree : FileTree} {given : Arguments}
  {inputs : Inputs}

/-- A command with an output that succeeds writes the code that it generates. -/
theorem exists_written {arguments : List String} {resolved shown messages : String}
    (parsed : Arguments.parse? arguments = some given)
    (accepts : Accepts tree workingDirectory given inputs) (generating : given.listStyles = false)
    (output : inputs.output = some resolved)
    (finished : (runIn workingDirectory standardInput arguments tree).1 =
      .finished 0 shown messages) :
    ∃ generation, Generates given inputs (inputs.document.getD standardInput) generation ∧
      tree.write workingDirectory (target tree workingDirectory resolved generation)
        generation.code = .ok (runIn workingDirectory standardInput arguments tree).2 := by
  rw [runIn_of_accepts parsed accepts, run_runChecked generating] at finished ⊢
  rcases generate_cases given inputs (inputs.document.getD standardInput) with
    ⟨message, fails⟩ | ⟨reason, breaks⟩ | ⟨generation, generates⟩
  · rw [generate_of_failsFirst fails] at finished
    cases finished
  · rw [generate_of_breaksOff breaks] at finished
    cases finished
  · refine ⟨generation, generates, ?_⟩
    rw [generate_of_generates generates, output] at finished ⊢
    dsimp only at finished ⊢
    cases wrote : tree.write workingDirectory (target tree workingDirectory resolved generation)
        generation.code with
    | ok written =>
        rw [run_deliver_of_ok wrote]
        rfl
    | error failure =>
        rw [run_deliver_of_error wrote] at finished
        cases finished

/-- The path that code goes to ends in the suggested name in a directory that no slash leads away
from, and in the same name as the output anywhere else. -/
theorem exists_endsIn_target (tree : FileTree) (workingDirectory : Place) (path : String)
    (generation : Generation) {resolved : String}
    (isResolved : resolved = Path.resolve (Path.absolute workingDirectory) path) :
    ∃ name, Path.EndsIn (target tree workingDirectory resolved generation) name ∧
      (tree.isDirectory workingDirectory resolved = true →
        (name = generation.suggestedPath ↔ '/' ∉ generation.fileName.toList)) ∧
      (tree.isDirectory workingDirectory resolved = false → Path.EndsIn resolved name) := by
  cases isDirectory : tree.isDirectory workingDirectory resolved with
  | true =>
      have targeted : target tree workingDirectory resolved generation =
          Path.join resolved generation.suggestedPath := if_pos isDirectory
      obtain ⟨name, ends, same⟩ :=
        @Path.exists_endsIn_join generation.fileName _ generation.language.endsName_extension
          resolved
      rw [← String.append_assoc] at ends same
      exact ⟨name, targeted ▸ ends, fun _ => same, nofun⟩
  | false =>
      have targeted : target tree workingDirectory resolved generation = resolved :=
        if_neg (Bool.eq_false_iff.mp isDirectory)
      rcases Path.resolve_cases (Path.absolute workingDirectory) path with root | ⟨name, ends⟩
      · -- The root is a directory, so it is no other output.
        rw [isResolved, root, FileTree.isDirectory_root] at isDirectory
        cases isDirectory
      · rw [← isResolved] at ends
        exact ⟨name, targeted.symm ▸ ends, nofun, fun _ => ends⟩

/-- The code that a command generates in the style for generated routines starts with the directives
of the part of its suggested file. -/
theorem Generates.exists_below {document : Contents} {options : Options} {generation : Generation}
    (generates : Generates given inputs document generation) (isDart : inputs.language = .dart)
    (optioned : ReadsOptions inputs.configuration options)
    (serializable : Language.dart.normalizeStyle (override given options).serializationStyle =
      .ok .jsonSerializable) :
    ∃ below, generation.code = Dart.partLines generation.fileName ++ below := by
  cases generates with
  | @intro other _ _ otherOptioned _ generated =>
      have same : Except.ok other = (Except.ok options : Except Outcome Options) := by
        rw [← readOptions_of_readsOptions otherOptioned, readOptions_of_readsOptions optioned]
      cases same
      rw [generateWith, Generation.run_of_named (Language.parse_name inputs.language), isDart]
        at generated
      exact Generation.exists_below_of_inLanguage serializable generated

section

variable (workingDirectory : Place) (standardInput : Contents) (arguments : List String)
  (tree : FileTree) (given : Arguments) (inputs : Inputs) (resolved : String)
  (generation : Generation) (place : Place) (name : String)

/-- A command directs the part of the file that it writes when the code names the part after the
suggested file. In a directory the file has the suggested name exactly when that name has no slash,
and then the part matches. At any other output the file has the last name of the output, and the
part matches exactly when that is the suggested name. -/
structure DirectsPart : Prop where
  generates : Generates given inputs (inputs.document.getD standardInput) generation
  suggests : generation.fileName = Language.dart.fileName
    (Extraction.rootName (given.name.getD Extraction.defaultRootName))
  located : tree.locate workingDirectory (target tree workingDirectory resolved generation) =
    .ok (place ++ [name])
  written : FileTree.DiffersAt (place ++ [name]) generation.code tree
    (runIn workingDirectory standardInput arguments tree).2
  directed : ∃ below, generation.code = Dart.partLines generation.fileName ++ below
  inside : tree.isDirectory workingDirectory resolved = true →
    (name = generation.fileName ++ ".dart" ↔ '/' ∉ generation.fileName.toList)
  elsewhere : tree.isDirectory workingDirectory resolved = false → Path.EndsIn resolved name ∧
    (name = generation.fileName ++ ".dart" ↔
      Path.EndsIn resolved (generation.fileName ++ ".dart"))
  slashed : '/' ∈ generation.fileName.toList →
    '/' ∈ (given.name.getD Extraction.defaultRootName).toList ∧
      Naming.words
        (Extraction.rootName (given.name.getD Extraction.defaultRootName)).toList = []

end

/-- A command that writes a Dart file in the style for generated routines directs its part. -/
theorem directs_part {arguments : List String} {options : Options}
    {resolved shown messages : String}
    (parsed : Arguments.parse? arguments = some given)
    (accepts : Accepts tree workingDirectory given inputs) (generating : given.listStyles = false)
    (isDart : inputs.language = .dart) (optioned : ReadsOptions inputs.configuration options)
    (serializable : Language.dart.normalizeStyle (override given options).serializationStyle =
      .ok .jsonSerializable)
    (output : inputs.output = some resolved)
    (finished : (runIn workingDirectory standardInput arguments tree).1 =
      .finished 0 shown messages) :
    ∃ generation place name, DirectsPart workingDirectory standardInput arguments tree given inputs
      resolved generation place name := by
  obtain ⟨generation, generates, wrote⟩ := exists_written parsed accepts generating output finished
  obtain ⟨language, fileName⟩ := generates.suggests
  rw [isDart] at language fileName
  obtain ⟨path, isResolved⟩ : ∃ path,
      resolved = Path.resolve (Path.absolute workingDirectory) path := by
    have found := accepts .output
    rw [Establishes, output] at found
    cases found with
    | path => exact ⟨_, rfl⟩
  obtain ⟨name, ends, inside, elsewhere⟩ :=
    exists_endsIn_target tree workingDirectory path generation isResolved
  obtain ⟨reached, located, differs⟩ := FileTree.differsAt_of_write wrote
  obtain ⟨place, rfl⟩ := FileTree.exists_above_of_endsIn ends located
  have suggested : generation.suggestedPath = generation.fileName ++ ".dart" := by
    rw [Generation.suggestedPath, language, String.append_assoc]
    rfl
  refine ⟨generation, place, name, generates, fileName, located, differs,
    generates.exists_below isDart optioned serializable, suggested ▸ inside, ?_, ?_⟩
  · intro noDirectory
    have endsOutput := elsewhere noDirectory
    exact ⟨endsOutput, fun same => same ▸ endsOutput, fun endsSuggested =>
      endsOutput.eq endsSuggested⟩
  · intro slash
    rw [fileName] at slash
    obtain ⟨inRoot, wordless⟩ := Language.slash_mem_of_mem_fileName slash
    exact ⟨Extraction.slash_mem_of_mem_rootName inRoot, wordless rfl⟩

/-- This command asks for a Dart file with generated routines. -/
def serializedCommand (name path : String) : List String :=
  ["-n", name, "-l", "dart", "-s", "json-serializable", "-", path]

/-- These are the arguments of such a command. -/
def serializedArguments (name path : String) : Arguments where
  valued := [.name, .language, .serialization]
  name := some name
  languageName := some "dart"
  serialization := some "json-serializable"
  paths := ["-", path]

def serializedInputs (resolved : String) : Inputs where
  language := .dart
  named := true
  output := some resolved

/-- A command that writes into a directory directs the part of its file. -/
theorem userProfile_directs_part :
    Arguments.parse? (serializedCommand "user profile" "out") =
        some (serializedArguments "user profile" "out") ∧
      Accepts outputTree [] (serializedArguments "user profile" "out") (serializedInputs "/out") ∧
      (runIn [] "\x7b\x7d" (serializedCommand "user profile" "out") outputTree).1 =
        .finished 0 "" "Wrote /out/user_profile.dart\n" ∧
      ∃ generation place name,
        DirectsPart [] "\x7b\x7d" (serializedCommand "user profile" "out") outputTree
          (serializedArguments "user profile" "out") (serializedInputs "/out") "/out" generation
          place name := by
  have parsed : Arguments.parse? (serializedCommand "user profile" "out") =
      some (serializedArguments "user profile" "out") := by decide
  have accepts : Accepts outputTree [] (serializedArguments "user profile" "out")
      (serializedInputs "/out") :=
    (checkAll_eq_ok_iff "" parsed).mp rfl
  have finished : (runIn [] "\x7b\x7d" (serializedCommand "user profile" "out") outputTree).1 =
      .finished 0 "" "Wrote /out/user_profile.dart\n" := by
    decide +kernel
  exact ⟨parsed, accepts, finished, directs_part parsed accepts rfl rfl .default rfl rfl finished⟩

/-- A file that is named by the output has a part of another name. -/
theorem accountFile_misdirects_part :
    Arguments.parse? (serializedCommand "user" "account.dart") =
        some (serializedArguments "user" "account.dart") ∧
      Accepts ⟨[], []⟩ [] (serializedArguments "user" "account.dart")
        (serializedInputs "/account.dart") ∧
      ∃ code : String,
        runIn [] "\x7b\x7d" (serializedCommand "user" "account.dart") ⟨[], []⟩ =
          (.finished 0 "" "Wrote /account.dart\n", ⟨[], [(["account.dart"], code)]⟩) ∧
        (∃ below, code = Dart.partLines "user" ++ below) ∧
        ∀ below, code ≠ Dart.partLines "account" ++ below := by
  have parsed : Arguments.parse? (serializedCommand "user" "account.dart") =
      some (serializedArguments "user" "account.dart") := by decide
  have accepts : Accepts ⟨[], []⟩ [] (serializedArguments "user" "account.dart")
      (serializedInputs "/account.dart") :=
    (checkAll_eq_ok_iff "" parsed).mp rfl
  have ended : runIn [] "\x7b\x7d" (serializedCommand "user" "account.dart") ⟨[], []⟩ =
      (.finished 0 "" "Wrote /account.dart\n", ⟨[], [(["account.dart"],
        .text (Dart.partLines "user" ++
          ("\n@JsonSerializable()\nclass User \x7b\n\n  User();\n\n" ++
          "  factory User.fromJson(Map<String, dynamic> json) => _$UserFromJson(json);\n\n" ++
          "  Map<String, dynamic> toJson() => _$UserToJson(this);\n\x7d\n")))]⟩) := by
    decide +kernel
  refine ⟨parsed, accepts, _, ended, ⟨_, rfl⟩, ?_⟩
  intro below same
  have named := Dart.eq_of_partLines_append (by decide) (by decide) same
  exact absurd named (by decide)

end CommandLine

end Exemplar
