import Exemplar.Proofs.DartOutline
import Exemplar.Proofs.KotlinOutline
import Exemplar.Proofs.TypeScriptOutline

namespace Exemplar

open Naming

/-- What the first part of a file starts with may be passed over. -/
theorem drop_fileText (passed rest : List Char) (header : List String) (classes : List ClassLines) :
    (fileText (String.ofList (passed ++ rest) :: header) classes).toList.drop passed.length =
      (fileText (String.ofList rest :: header) classes).toList := by
  simp only [fileText, List.cons_append, String.toList_append, String.toList_intercalate,
    List.map_cons, String.toList_ofList]
  generalize (header ++ classes.map fun declared => "\n".intercalate declared.lines).map
    String.toList = parts
  cases parts with
  | nil => simp
  | cons next later => simp [List.intercalate_cons_cons]

namespace Language

/-- This function reads the field that a line declares. -/
def fieldOutline? (language : Language) (settings : Settings) : List Char → Option FieldOutline :=
  match language with
  | .typeScript => TypeScript.fieldOutline?
  | .dart => Dart.fieldOutline? settings.constructors
  | .kotlin => Kotlin.fieldOutline?

/-- Only Kotlin writes a text of the user above the classes, which is passed over. -/
def passedOver (language : Language) (settings : Settings) : Nat :=
  match language with
  | .kotlin => (Kotlin.packagePrefix settings.package).length
  | _ => 0

/-- This function reads the outline of a file. -/
def readOutline (language : Language) (settings : Settings) (code : String) : List ClassOutline :=
  (readAbove (language.fieldOutline? settings)
    (code.toList.drop (language.passedOver settings)) ([], [])).2

/-- The classes of a set of plain models show their outlines. -/
theorem shows_classLines (language : Language) (settings : Settings) {set : ModelSet}
    (plain : ∀ model ∈ set.models, model.IsPlain) :
    List.Forall₂ (ClassLines.Shows (language.fieldOutline? settings))
      (language.classLines settings set) (set.outline language) := by
  have names : ∀ name ∈ set.names, IsPlain name := by
    intro name member
    rw [ModelSet.names, NameSet.mem_ofList] at member
    obtain ⟨model, listed, rfl⟩ := List.mem_map.mp member
    exact (plain model listed).name
  cases language with
  | typeScript =>
      rw [classLines, TypeScript.file, List.map_map, ModelSet.outline, List.forall₂_map_left_iff,
        List.forall₂_map_right_iff, List.forall₂_same]
      exact fun model member => TypeScript.shows_declaration settings names (plain model member)
  | dart =>
      rw [classLines, Dart.file, List.map_map, ModelSet.outline, List.forall₂_map_left_iff,
        List.forall₂_map_right_iff, List.forall₂_same]
      exact fun model member => Dart.shows_declare settings names (plain model member)
  | kotlin =>
      rw [classLines, Kotlin.file, List.map_map, ModelSet.outline, List.forall₂_map_left_iff,
        List.forall₂_map_right_iff, List.forall₂_same]
      exact fun model member => Kotlin.shows_declare settings names (plain model member)

/-- The file of plain models is read as their outlines. -/
theorem readOutline_emit (language : Language) (settings : Settings) {set : ModelSet}
    (plain : ∀ model ∈ set.models, model.IsPlain) :
    language.readOutline settings (language.emit settings set).code = set.outline language := by
  have shown := shows_classLines language settings plain
  rw [readOutline, code_emit]
  cases language with
  | typeScript =>
      have silent : ∀ part ∈ typeScript.header settings set, ∀ below,
          readAbove TypeScript.fieldOutline? part.toList below = below := fun part listed below =>
        readAbove_line (TypeScript.tells_importParts _ part listed) below
      exact congrArg Prod.snd (readAbove_fileText silent shown)
  | dart =>
      have silent : ∀ part ∈ dart.header settings set, ∀ below,
          readAbove (Dart.fieldOutline? settings.constructors) part.toList below = below := by
        intro part listed below
        have rootPlain := plain set.root (List.mem_append_right _ List.mem_cons_self)
        refine readAbove_line (Dart.tells_directives _ ?_ part listed) below
        intro name isPart
        simp only [Dart.file, Option.mem_def] at isPart
        split at isPart
        · cases isPart
          have word := all_snake (all_of_isPlainText rootPlain.name)
          intro broken
          rw [Dart.fileName, snakeCase, String.toList_ofList] at broken
          exact absurd (List.all_eq_true.mp word _ broken) (by decide)
        · cases isPart
      exact congrArg Prod.snd (readAbove_fileText silent shown)
  | kotlin =>
      obtain ⟨blanks, later, written, blank, silentLater⟩ :=
        Kotlin.exists_header (Kotlin.file settings set)
      have silent : ∀ part ∈ String.ofList blanks :: later, ∀ below,
          readAbove Kotlin.fieldOutline? part.toList below = below := by
        refine List.forall_mem_cons.mpr ⟨fun below => ?_, silentLater⟩
        rw [String.toList_ofList]
        exact Kotlin.readAbove_blanks blank below
      have header : kotlin.header settings set =
          String.ofList (Kotlin.packagePrefix settings.package ++ blanks) :: later := written
      rw [header, passedOver, drop_fileText]
      exact congrArg Prod.snd (readAbove_fileText silent shown)

end Language

namespace ModelSet

/-- A model set is plainly extracted when all keys of its document and the name that is given to the
root are plain. -/
def PlainlyExtracted (set : ModelSet) : Prop :=
  ∃ nullSafety given document extraction,
    IsPlain given ∧ document.EachKey IsPlain ∧
      Extraction.ofDocument nullSafety given document = .ok extraction ∧ extraction.models = set

theorem PlainlyExtracted.isPlain {set : ModelSet} (extracted : set.PlainlyExtracted) :
    ∀ model ∈ set.models, model.IsPlain := by
  obtain ⟨_, _, _, _, named, keys, read, rfl⟩ := extracted
  exact Extraction.isPlain_of_mem_models named keys read

/-- Two plainly extracted sets with the same code have the same classes in the same order, and the
same names and declared types of fields in each of them. -/
theorem outline_eq_of_code_eq (language : Language) (settings : Settings)
    {first second : ModelSet} (firstExtracted : first.PlainlyExtracted)
    (secondExtracted : second.PlainlyExtracted)
    (same : (language.emit settings first).code = (language.emit settings second).code) :
    first.outline language = second.outline language := by
  rw [← language.readOutline_emit settings firstExtracted.isPlain, same,
    language.readOutline_emit settings secondExtracted.isPlain]

/-- In this document a number is given, and an object is below the nested models. -/
def meterReading (reading : Json) (below : String) : Json :=
  .object [("meter_id", .string "x"), ("reading", reading),
    ("place", .array [.object [("flat", .object [(below, .null)]), ("zip_code", .integer 1)]])]

/-- This is the model set of a meter reading. -/
def meterModels (reading : Shape) (below : String) : ModelSet where
  nested := [⟨"Flat", [⟨"flat", "flat", .reference below, true, false, true⟩,
    ⟨"zipCode", "zip_code", .primitive .integer, true, false, false⟩]⟩]
  root := ⟨"Meter", [⟨"meterId", "meter_id", .primitive .string, true, false, false⟩,
    ⟨"reading", "reading", reading, true, reading.isList, reading.isReference⟩,
    ⟨"place", "place", .list (.reference "Flat"), true, true, false⟩]⟩

/-- The code does not tell an integer from a fraction, nor one unknown model from another. -/
theorem meterModels_outline_eq :
    (meterModels (.primitive .integer) "Street").PlainlyExtracted ∧
      (meterModels (.primitive .float) "Floor").PlainlyExtracted ∧
      (meterModels (.primitive .integer) "Street").outline .typeScript =
        (meterModels (.primitive .float) "Floor").outline .typeScript := by
  have keys (reading : Json) (below : String) (scalar : reading.EachKey IsPlain)
      (plain : IsPlain below) : (meterReading reading below).EachKey IsPlain := by
    have flat : (Json.object [(below, .null)]).EachKey IsPlain :=
      .object (by simpa using plain) (by simpa using .null)
    have place : (Json.object
        [("flat", .object [(below, .null)]), ("zip_code", .integer 1)]).EachKey IsPlain :=
      .object (by simp +decide) (by simpa using ⟨flat, .integer 1⟩)
    refine .object (by simp +decide) ?_
    simpa using ⟨.string "x", scalar, .array (by simpa using place)⟩
  have first : (meterModels (.primitive .integer) "Street").PlainlyExtracted :=
    ⟨true, "meter", meterReading (.integer 1) "street", _, by decide,
      keys _ _ (.integer 1) (by decide), rfl, by decide⟩
  have second : (meterModels (.primitive .float) "Floor").PlainlyExtracted :=
    ⟨true, "meter", meterReading (.float (.finite false 3 (-1))) "floor", _, by decide,
      keys _ _ (.float _) (by decide), rfl, by decide⟩
  exact ⟨first, second, outline_eq_of_code_eq .typeScript ⟨false, some .classTransformer, ""⟩
    first second (by decide +kernel)⟩

end ModelSet

end Exemplar
