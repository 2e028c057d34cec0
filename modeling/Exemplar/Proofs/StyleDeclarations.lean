import Exemplar.Proofs.FieldDeclarations
import Exemplar.Proofs.GenerationOutcome

namespace Exemplar

def FieldLines.bare (field : FieldLines) : FieldLines :=
  { field with annotations := [] }

namespace TypeScript

def Property.bare (property : Property) : Property :=
  { property with decorators := [] }

theorem bare_fieldLines (property : Property) :
    (fieldLines property).bare = fieldLines property.bare := rfl

/-- Only the way in which fields are initialized tells on a property without decorators. -/
theorem bare_property (settings : Settings) (known : NameSet) (field : Field) :
    (property settings known field).bare =
      { decorators := []
        name := field.name
        optional := field.nullable
        type := field.shape.resolve known
        initializer :=
          if Language.typeScript.InitializesInPlace settings then
            initializer? (field.shape.resolve known) field
          else none } := by
  by_cases built : settings.constructors = true <;>
    by_cases typeOnly : settings.style = some .typeOnly <;>
    simp [property, Property.bare, Language.InitializesInPlace, built, typeOnly]

/-- Only the style that describes types declares interfaces. -/
theorem keyword_form (settings : Settings) (known : NameSet) (model : Model) :
    (form settings known model).keyword =
      if settings.style = some .typeOnly then "interface" else "class" := by
  unfold form
  split
  · rfl
  · split <;> rfl

end TypeScript

namespace Dart

def Property.bare (property : Property) : Property :=
  { property with key := none }

theorem bare_fieldLines (property : Property) :
    (fieldLines property).bare = fieldLines property.bare := rfl

end Dart

namespace Kotlin

def Property.bare (property : Property) : Property :=
  { property with marker := none }

theorem bare_fieldLines (form : Form) (ending : String) (property : Property) :
    (fieldLines form ending property).bare = fieldLines form ending property.bare := rfl

/-- The lines of properties without markers have no annotations. -/
theorem bare_propertyFields (properties : List Property) (form : Form) :
    (propertyFields properties form).map FieldLines.bare =
      propertyFields (properties.map Property.bare) form := by
  cases form with
  | data =>
      induction properties with
      | nil => rfl
      | cons property rest inductionHypothesis =>
          cases rest with
          | nil => rfl
          | cons next later => exact congrArg _ inductionHypothesis
  | plain => simp [propertyFields, bare_fieldLines, Function.comp_def]

end Kotlin

namespace Language

section

variable {language : Language} {first second : Settings}

/-- Outside TypeScript only constructors decide whether fields are initialized in place. -/
theorem constructors_eq (other : language ≠ .typeScript)
    (sameMode : language.InitializesInPlace first ↔ language.InitializesInPlace second) :
    first.constructors = second.constructors := by
  have inPlace (settings : Settings) :
      language.InitializesInPlace settings ↔ settings.constructors = false := by
    simp [InitializesInPlace, other]
  rw [inPlace, inPlace] at sameMode
  cases built : first.constructors <;> simp_all

/-- Settings that initialize fields alike give the same lines but for annotations. -/
theorem bare_modelLines
    (sameMode : language.InitializesInPlace first ↔ language.InitializesInPlace second)
    (known : NameSet) (model : Model) :
    (language.modelLines first known model).fields.map FieldLines.bare =
      (language.modelLines second known model).fields.map FieldLines.bare := by
  cases language with
  | typeScript =>
      simp only [modelLines, TypeScript.classLines, TypeScript.declaration, List.map_map]
      apply List.map_congr_left
      intro field _
      simp only [Function.comp_apply, TypeScript.bare_fieldLines, TypeScript.bare_property,
        sameMode]
  | dart =>
      have built := constructors_eq (by decide) sameMode
      simp only [modelLines, Dart.classLines, Dart.declare, List.map_map]
      apply List.map_congr_left
      intro field _
      simp only [Function.comp_apply, Dart.bare_fieldLines, Dart.property, Dart.Property.bare,
        built]
  | kotlin =>
      have built := constructors_eq (by decide) sameMode
      simp only [modelLines, Kotlin.classLines, Kotlin.declare, Kotlin.bare_propertyFields,
        List.map_map, built]
      congr 1
      apply List.map_congr_left
      intro field _
      simp only [Function.comp_apply, Kotlin.property, Kotlin.Property.bare, built]

/-- A class is opened alike under settings that agree on constructors and on interfaces. -/
theorem opening_modelLines (built : first.constructors = second.constructors)
    (sameForm : first.style = some .typeOnly ↔ second.style = some .typeOnly) (known : NameSet)
    (model : Model) :
    (language.modelLines first known model).opening =
      (language.modelLines second known model).opening := by
  cases language with
  | typeScript =>
      simp only [modelLines, TypeScript.classLines, TypeScript.declaration,
        TypeScript.keyword_form, sameForm]
  | dart => rfl
  | kotlin =>
      simp only [modelLines, Kotlin.classLines, Kotlin.declare, built]
      cases model.fields with
      | nil => rfl
      | cons field rest => cases second.constructors <;> rfl

/-- Settings that initialize fields alike give the same declarations. -/
theorem declaration_congr
    (sameMode : language.InitializesInPlace first ↔ language.InitializesInPlace second)
    (known : NameSet) (field : Field) :
    language.declaration first known field = language.declaration second known field := by
  simp only [declaration, declaredValue?, sameMode]

end

/-- Two classes declare alike when the lines of their fields differ at most in annotations, and
lines of the same place declare a field by the same name and type, with the same mark and value. -/
structure DeclareAlike (language : Language) (first second : ClassLines) : Prop where
  lines : first.fields.map FieldLines.bare = second.fields.map FieldLines.bare
  declared : ∃ declarations, List.Forall₂ language.Declares declarations first.fields ∧
    List.Forall₂ language.Declares declarations second.fields

/-- Classes of a model declare alike under settings that initialize fields alike. -/
theorem declareAlike_modelLines {language : Language} {first second : Settings}
    (sameMode : language.InitializesInPlace first ↔ language.InitializesInPlace second)
    (known : NameSet) (model : Model) :
    language.DeclareAlike (language.modelLines first known model)
      (language.modelLines second known model) where
  lines := bare_modelLines sameMode known model
  declared := by
    have ofFirst := language.declares_fields first known model
    have ofSecond := language.declares_fields second known model
    simp only [declaration_congr sameMode] at ofFirst
    exact ⟨model.fields.map (language.declaration second known),
      List.forall₂_map_left_iff.mpr ofFirst, List.forall₂_map_left_iff.mpr ofSecond⟩

/-- The classes of a file are related one by one when those of each model are. -/
theorem forall₂_classLines {language : Language} {related : ClassLines → ClassLines → Prop}
    {first second : Settings} {set : ModelSet}
    (each : ∀ model, related (language.modelLines first set.names model)
      (language.modelLines second set.names model)) :
    List.Forall₂ related (language.classLines first set) (language.classLines second set) := by
  rw [classLines_eq_map, classLines_eq_map, List.forall₂_map_left_iff, List.forall₂_map_right_iff,
    List.forall₂_same]
  exact fun model _ => each model

end Language

namespace Options

/-- This function asks for a style and leaves the other options as they are. -/
def withStyle (options : Options) (style : Json) : Options :=
  { options with serializationStyle := style }

def settingsIn (options : Options) (style : Style) : Settings :=
  { options.settings with style := some style }

/-- Options with the name of a style have the settings of the style. -/
theorem settings_withStyle (options : Options) (style : Style) :
    (options.withStyle (.string style.name)).settings = options.settingsIn style := by
  have named : Style.ofName? style.name = some style := by cases style <;> decide
  rw [settingsIn, ← named]
  rfl

/-- A legal style is replaced by its name when the options are checked. -/
theorem validatedFor_withStyle {language : Language} {value : Json} {style : Style}
    (legal : language.normalizeStyle value = .ok style) (options : Options) :
    (options.withStyle value).validatedFor language =
      .ok (options.withStyle (.string style.name)) := by
  simp only [validatedFor, withStyle, legal]
  rfl

end Options

namespace Language

/-- The classes of any two styles but the one for interfaces are opened by the same lines and
declare alike. -/
theorem forall₂_declareAlike (language : Language) (options : Options) (set : ModelSet)
    {first second : Style} (firstClasses : first ≠ .typeOnly) (secondClasses : second ≠ .typeOnly) :
    List.Forall₂ (fun left right =>
        left.opening = right.opening ∧ language.DeclareAlike left right)
      (language.classLines (options.settingsIn first) set)
      (language.classLines (options.settingsIn second) set) := by
  have sameForm : (options.settingsIn first).style = some .typeOnly ↔
      (options.settingsIn second).style = some .typeOnly := by
    simp [Options.settingsIn, firstClasses, secondClasses]
  have sameMode : language.InitializesInPlace (options.settingsIn first) ↔
      language.InitializesInPlace (options.settingsIn second) :=
    and_congr_right fun _ => imp_congr_right fun _ => not_congr sameForm
  have built : (options.settingsIn first).constructors =
      (options.settingsIn second).constructors := rfl
  exact forall₂_classLines fun model =>
    ⟨opening_modelLines built sameForm _ model,
      declareAlike_modelLines sameMode _ model⟩

theorem opening_interface (options : Options) (known : NameSet) (model : Model) :
    (typeScript.modelLines (options.settingsIn .typeOnly) known model).opening =
      "export interface " ++ model.name ++ " \x7b" := by
  simp only [modelLines, TypeScript.classLines, TypeScript.declaration,
    TypeScript.keyword_form, Options.settingsIn, if_true]
  rfl

theorem opening_class {settings : Settings} (classes : settings.style ≠ some .typeOnly)
    (known : NameSet) (model : Model) :
    (typeScript.modelLines settings known model).opening =
      "export class " ++ model.name ++ " \x7b" := by
  simp only [modelLines, TypeScript.classLines, TypeScript.declaration,
    TypeScript.keyword_form, if_neg classes]
  rfl

/-- Interfaces have no constructors. -/
theorem emit_typeOnly {first second : Settings} (firstStyle : first.style = some .typeOnly)
    (secondStyle : second.style = some .typeOnly) (set : ModelSet) :
    typeScript.emit first set = typeScript.emit second set := by
  have property (known : NameSet) :
      TypeScript.property first known = TypeScript.property second known := by
    funext field
    simp [TypeScript.property, TypeScript.decorators, firstStyle, secondStyle]
  have file : TypeScript.file first set = TypeScript.file second set := by
    unfold TypeScript.file
    congr 2
    funext model
    simp only [TypeScript.declaration, TypeScript.form, firstStyle, secondStyle, property, if_true]
  simp only [emit, file]

end Language

namespace Generation

/-- A generation in a legal style emits the models of its document in that style. -/
theorem inLanguage_withStyle {language : Language} {value : Json} {style : Style}
    (legal : language.normalizeStyle value = .ok style) (document : Json) (given : String)
    (options : Options) :
    inLanguage language document given (options.withStyle value) =
      (Extraction.ofDocument options.nullSafety.truthy given document).map
        (ofExtraction language (options.withStyle (.string style.name))) := by
  have named := Language.parse_name language
  rw [← run_of_named named]
  exact run_of_checked named (Options.validatedFor_withStyle legal options) document given

/-- A generation of interfaces gives the same result whatever is asked for constructors. -/
theorem inLanguage_typeOnly {value : Json}
    (legal : Language.typeScript.normalizeStyle value = .ok .typeOnly) (constructors : Json)
    (document : Json) (given : String) (options : Options) :
    inLanguage .typeScript document given
        { options.withStyle value with includeConstructor := constructors } =
      inLanguage .typeScript document given (options.withStyle value) := by
  have asked : { options.withStyle value with includeConstructor := constructors } =
      { options with includeConstructor := constructors }.withStyle value := rfl
  rw [asked, inLanguage_withStyle legal, inLanguage_withStyle legal]
  congr 1
  funext extraction
  have emitted := Language.emit_typeOnly
    (congrArg Settings.style (Options.settings_withStyle
      { options with includeConstructor := constructors } .typeOnly))
    (congrArg Settings.style (Options.settings_withStyle options .typeOnly))
    extraction.models
  simp only [ofExtraction, emitted]
  rfl

/-- Styles only add to the classes of a model set when the code in each legal style consists of
classes, the classes of any two styles but the one for interfaces are opened by the same lines and
declare alike, a generation of interfaces gives the same result whatever is asked for constructors,
and interfaces declare like the classes with constructors of all other styles. -/
structure StylesOnlyAdd (language : Language) (document : Json) (given : String)
    (options : Options) (set : ModelSet) : Prop where
  written : ∀ value style, language.normalizeStyle value = .ok style →
    ∃ generation, inLanguage language document given (options.withStyle value) = .ok generation ∧
      generation.code = fileText (language.header (options.settingsIn style) set)
        (language.classLines (options.settingsIn style) set)
  alike : ∀ first second : Style, first ≠ .typeOnly → second ≠ .typeOnly →
    List.Forall₂ (fun left right =>
        left.opening = right.opening ∧ language.DeclareAlike left right)
      (language.classLines (options.settingsIn first) set)
      (language.classLines (options.settingsIn second) set)
  unconstructed : ∀ value constructors,
    Language.typeScript.normalizeStyle value = .ok .typeOnly →
      inLanguage .typeScript document given
          { options.withStyle value with includeConstructor := constructors } =
        inLanguage .typeScript document given (options.withStyle value)
  interfaces : ∀ style : Style, style ≠ .typeOnly →
    List.Forall₂ (fun interface constructed =>
        (∃ name, interface.opening = "export interface " ++ name ++ " \x7b" ∧
          constructed.opening = "export class " ++ name ++ " \x7b") ∧
        Language.typeScript.DeclareAlike interface constructed)
      (Language.typeScript.classLines (options.settingsIn .typeOnly) set)
      (Language.typeScript.classLines { options.settingsIn style with constructors := true } set)

/-- Styles only add to the classes of a document. -/
theorem styles_only_add {document : Json} {members : List (String × Json)}
    (root : document.heldObject? = some members) (given : String) (options : Options)
    (language : Language) :
    ∃ extraction,
      Extraction.ofDocument options.nullSafety.truthy given document = .ok extraction ∧
        StylesOnlyAdd language document given options extraction.models := by
  obtain ⟨extraction, extracted⟩ :
      ∃ extraction, Extraction.ofDocument options.nullSafety.truthy given document =
        .ok extraction := ⟨_, Extraction.ofDocument_eq_ok_iff.mpr ⟨members, root, rfl⟩⟩
  refine ⟨extraction, extracted, ?_, ?_, ?_, ?_⟩
  · intro value style legal
    refine ⟨ofExtraction language (options.withStyle (.string style.name)) extraction, ?_, ?_⟩
    · rw [inLanguage_withStyle legal, extracted]
      rfl
    · rw [← Options.settings_withStyle]
      exact language.code_emit _ _
  · intro first second firstClasses secondClasses
    exact language.forall₂_declareAlike options extraction.models firstClasses secondClasses
  · intro value constructors legal
    exact inLanguage_typeOnly legal constructors document given options
  · intro style classes
    have sameMode :
        Language.typeScript.InitializesInPlace (options.settingsIn .typeOnly) ↔
          Language.typeScript.InitializesInPlace
            { options.settingsIn style with constructors := true } := by
      simp [Language.InitializesInPlace, Options.settingsIn]
    have isClass : some style ≠ some Style.typeOnly := mt Option.some.inj classes
    exact Language.forall₂_classLines fun model =>
      ⟨⟨model.name, Language.opening_interface options _ model,
          Language.opening_class isClass _ model⟩,
        Language.declareAlike_modelLines sameMode _ model⟩

/-- In this document two keys are renamed, one of them in a sample in a list, and one value tells
nothing. -/
def paidOrder : List (String × Json) :=
  [("order_id", .integer 7), ("paid", .boolean true),
   ("lines", .array [.object [("unit-price", .float (.finite false 3 (-1))), ("note", .null)]])]

/-- These options leave out constructors and null safety and name a package. -/
def packagedOptions : Options where
  includeConstructor := .integer 0
  nullSafety := .boolean false
  packageName := .string "org.example"

/-- Styles only add to the classes of the document. -/
theorem paidOrder_styles_only_add :
    (Json.object paidOrder).heldObject? = some paidOrder ∧
      ∃ extraction, Extraction.ofDocument false "order" (.object paidOrder) = .ok extraction ∧
        StylesOnlyAdd .kotlin (.object paidOrder) "order" packagedOptions extraction.models :=
  ⟨rfl, styles_only_add rfl "order" packagedOptions .kotlin⟩

end Generation

end Exemplar
