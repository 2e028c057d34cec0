import Exemplar.Proofs.CoherentModels
import Exemplar.Proofs.CompleteModels
import Exemplar.Proofs.FieldDeclarations
import Exemplar.Proofs.StringLiterals

namespace Exemplar

/-- A whole number is written in digits. -/
def IsWholeLiteral (text : String) : Prop :=
  text ≠ "" ∧ ∀ character ∈ text.toList, character.isDigit = true

/-- A fraction is written with digits on both sides of a point. -/
def IsFractionLiteral (text : String) : Prop :=
  ∃ whole fraction, IsWholeLiteral whole ∧ IsWholeLiteral fraction ∧
    text = whole ++ "." ++ fraction

namespace Language

/-- This function reads a string literal by the rules of a language. -/
def readString? (language : Language) (literal : String) : Option String :=
  match language with
  | .typeScript => Json.readLiteral? literal
  | .dart => Literal.read? '\'' literal
  | .kotlin => Literal.read? '"' literal

/-- A literal fits a primitive type. In TypeScript all numbers have one type, and in the other
languages a whole number is no fraction. -/
def FitsPrimitive (language : Language) (value : String) : Primitive → Prop
  | .string => language.readString? value = some ""
  | .integer => IsWholeLiteral value
  | .float => IsFractionLiteral value ∨ language = .typeScript ∧ IsWholeLiteral value
  | .boolean => value = "true" ∨ value = "false"

/-- A class can be made without arguments when it declares no constructor or one without
parameters. -/
def ConstructsEmpty (language : Language) (name : String) (declared : ClassLines) : Prop :=
  match language with
  | .typeScript =>
      declared.opening = "export class " ++ name ++ " \x7b" ∧ declared.below = ["\x7d"]
  | .dart =>
      declared.opening = "class " ++ name ++ " \x7b" ∧
        (declared.below = ["\x7d"] ∨
          ∃ routines, declared.below = "" :: ("  " ++ name ++ "();") :: routines)
  | .kotlin =>
      declared.opening = "class " ++ name ++ " \x7b" ∨ declared.opening = "class " ++ name

/-- A value fits the type of a field. An instance of a class fits when one of the classes around it
has its name and can be made without arguments, and nothing fits the dynamic type. -/
def FitsType (language : Language) (classes : List ClassLines) (value : String) :
    FieldType → Prop
  | .primitive type => language.FitsPrimitive value type
  | .dynamic => False
  | .object => value = if language = .kotlin then "emptyMap()" else "\x7b\x7d"
  | .list _ => value = if language = .kotlin then "emptyList()" else "[]"
  | .model name =>
      value = (if language = .typeScript then "new " else "") ++ name ++ "()" ∧
        ∃ declared ∈ classes, language.ConstructsEmpty name declared

/-- A declaration is initialized when it admits null or has a value, and the value is null in a
declaration that admits it or else fits the declared type. -/
structure Initializes (language : Language) (classes : List ClassLines) (type : FieldType)
    (declaration : FieldDeclaration) : Prop where
  typed : declaration.type = language.dialect.type type
  started : declaration.marked = true ∨ language = .dart ∧ declaration.type = "dynamic" ∨
    ∃ value, declaration.value = some value
  notNone : declaration.value ≠ some "None"
  fits : ∀ value, declaration.value = some value →
    declaration.marked = true ∧ value = "null" ∨ language.FitsType classes value type

/-- A language initializes the fields of a model set when the code consists of classes that declare
the fields of all models one by one, and each declaration is initialized. -/
def InitializesFields (language : Language) (settings : Settings) (set : ModelSet) : Prop :=
  (language.emit settings set).code =
      fileText (language.header settings set) (language.classLines settings set) ∧
    List.Forall₂
      (fun model declared =>
        List.Forall₂
          (fun field lines => ∃ declaration, language.Declares declaration lines ∧
            declaration.name = field.name ∧
            language.Initializes (language.classLines settings set)
              (field.shape.resolve set.names) declaration)
          model.fields declared.fields)
      set.models (language.classLines settings set)

/-- The initial value of a type fits the type, when the classes of fresh instances can be made
without arguments. -/
theorem fitsType_initializer {language : Language} {classes : List ClassLines} {type : FieldType}
    {initializer : Initializer} (natural : type.initializer? = some initializer)
    (made : ∀ name, type = .model name →
      ∃ declared ∈ classes, language.ConstructsEmpty name declared) :
    language.FitsType classes (language.dialect.initializer initializer) type := by
  cases type with
  | dynamic => cases natural
  | object =>
      cases natural
      cases language <;> rfl
  | list item =>
      cases natural
      cases language <;> rfl
  | model name =>
      cases natural
      refine ⟨?_, made name rfl⟩
      cases language <;> simp [dialect, TypeScript.dialect, Dart.dialect, Kotlin.dialect]
  | primitive type =>
      cases natural
      have zero : IsWholeLiteral "0" := ⟨by decide, by simp⟩
      have fraction : IsFractionLiteral "0.0" := ⟨"0", "0", zero, zero, rfl⟩
      cases type with
      | string =>
          cases language with
          | typeScript => exact Json.readLiteral?_quoted ""
          | dart => exact Dart.read?_quoted ""
          | kotlin => exact Kotlin.read?_quoted ""
      | integer => cases language <;> exact zero
      | float =>
          cases language with
          | typeScript => exact .inr ⟨rfl, zero⟩
          | dart => exact .inl fraction
          | kotlin => exact .inl fraction
      | boolean => cases language <;> exact .inr rfl

/-- No initial value is spelled as a missing one. -/
theorem initializer_ne_none (language : Language) (initializer : Initializer) :
    language.dialect.initializer initializer ≠ "None" := by
  cases initializer with
  | fresh model =>
      have called : '(' ∈ (language.dialect.initializer (.fresh model)).toList := by
        cases language <;> simp [dialect, TypeScript.dialect, Dart.dialect, Kotlin.dialect]
      intro same
      rw [same] at called
      exact absurd called (by decide)
  | emptyList => cases language <;> decide
  | emptyObject => cases language <;> decide
  | zero type => cases language <;> cases type <;> decide

/-- Only Kotlin starts a field that admits null with a value, which is null. -/
theorem initialText?_of_nullable (language : Language) (known : NameSet) {field : Field}
    (nullable : field.nullable = true) :
    language.initialText? known field = if language = .kotlin then some "null" else none := by
  cases language <;>
    simp [initialText?, TypeScript.initializer?, Dart.initializer?, Kotlin.initialValue,
      Kotlin.InitialValue.text, nullable]

/-- A field that does not admit null starts with the initial value of its type. -/
theorem initialText?_of_required (language : Language) {known : NameSet} {field : Field}
    {initializer : Initializer} (required : field.nullable = false)
    (natural : (field.shape.resolve known).initializer? = some initializer) :
    language.initialText? known field = some (language.dialect.initializer initializer) := by
  cases language <;>
    simp [initialText?, TypeScript.initializer?, Dart.initializer?, Kotlin.initialValue,
      Kotlin.InitialValue.text, dialect, required, natural]

/-- The class of a model can be made without arguments when there are no constructors. -/
theorem constructsEmpty_modelLines {language : Language} {settings : Settings}
    (inPlace : language.InitializesInPlace settings) (known : NameSet) {model : Model}
    (keeps : model.KeepsName) :
    language.ConstructsEmpty model.name (language.modelLines settings known model) := by
  obtain ⟨bare, notTypeOnly⟩ := inPlace
  cases language with
  | typeScript =>
      have plain : TypeScript.form settings known model = .plainClass := by
        simp [TypeScript.form, bare, notTypeOnly rfl]
      simp [ConstructsEmpty, modelLines, TypeScript.classLines, TypeScript.declaration, plain,
        TypeScript.Form.keyword, TypeScript.Form.lines]
  | dart =>
      refine ⟨rfl, ?_⟩
      by_cases plain : settings.style = some .plain
      · left
        simp [modelLines, Dart.classLines, Dart.declare, Dart.constructor, Dart.routines, bare,
          plain, Dart.Constructor.lines, Dart.Routines.lines]
      · right
        simp [modelLines, Dart.classLines, Dart.declare, Dart.constructor, bare, plain,
          Dart.Constructor.lines]
  | kotlin =>
      have declares := declaresClass_modelLines .kotlin settings known keeps
      rw [DeclaresClass, isEmpty_fields] at declares
      obtain ⟨name, fields⟩ := model
      cases fields with
      | nil => exact .inr (List.mem_singleton.mp declares)
      | cons field rest =>
          left
          simp [modelLines, Kotlin.classLines, Kotlin.declare, bare]

/-- The declaration of a field is initialized, when a field of unknown type admits null and the
classes of fresh instances can be made without arguments. -/
theorem initializes_declaration {language : Language} {settings : Settings}
    (inPlace : language.InitializesInPlace settings) {known : NameSet} {classes : List ClassLines}
    {field : Field} (unknown : field.shape = .dynamic → field.nullable = true)
    (made : ∀ name, field.shape.resolve known = .model name →
      ∃ declared ∈ classes, language.ConstructsEmpty name declared) :
    language.Initializes classes (field.shape.resolve known)
      (language.declaration settings known field) := by
  have value : (language.declaration settings known field).value =
      language.initialText? known field := if_pos inPlace
  cases nullable : field.nullable with
  | true =>
      rw [initialText?_of_nullable language known nullable] at value
      refine ⟨rfl, ?_, ?_, ?_⟩
      · by_cases dynamic : language = .dart ∧
            language.dialect.type (field.shape.resolve known) = Dart.dialect.dynamic
        · exact .inr (.inl dynamic)
        · exact .inl (by simpa [declaration, nullable] using not_and_or.mp dynamic)
      · rw [value]
        split <;> simp
      · intro given same
        rw [value] at same
        split at same
        next isKotlin =>
          left
          exact ⟨by simp [declaration, nullable, isKotlin], (Option.some.inj same).symm⟩
        · cases same
  | false =>
      have typed : field.shape ≠ .dynamic := by
        intro dynamic
        exact Bool.false_ne_true (nullable.symm.trans (unknown dynamic))
      obtain ⟨initializer, natural⟩ := Shape.exists_initializer known typed
      rw [initialText?_of_required language nullable natural] at value
      refine ⟨rfl, .inr (.inr ⟨_, value⟩), ?_, ?_⟩
      · rw [value]
        exact fun same => initializer_ne_none language initializer (Option.some.inj same)
      · intro given same
        rw [value] at same
        rw [← Option.some.inj same]
        exact .inr (fitsType_initializer natural made)

end Language

namespace Extraction

/-- Without constructors all fields of the classes for a document are initialized. -/
theorem fields_initialized {document : Json} {members : List (String × Json)}
    (wellFormed : document.WellFormed) (root : document.heldObject? = some members)
    (nullSafety : Bool) (given : String) (language : Language) (settings : Settings)
    (inPlace : language.InitializesInPlace settings) :
    ∃ extraction, ofDocument nullSafety given document = .ok extraction ∧
      language.InitializesFields settings extraction.models := by
  obtain ⟨extraction, extracted, coherent⟩ := models_coherent wellFormed root nullSafety given
  obtain ⟨found, held, rfl⟩ := ofDocument_eq_ok_iff.mp extracted
  refine ⟨_, extracted, language.code_emit settings _, ?_⟩
  rw [Language.classLines_eq_map]
  apply forall₂_map
  intro model member
  have declared := language.declares_fields settings
    (ofMembers nullSafety (rootName given) found).models.names model
  have present : ∀ field ∈ model.fields, field ∈ model.fields := fun _ present => present
  apply (List.forall₂_and_left _ _ |>.mpr ⟨present, declared⟩).imp
  intro field lines both
  obtain ⟨present, declares⟩ := both
  refine ⟨_, declares, rfl, Language.initializes_declaration inPlace ?_ ?_⟩
  · exact ((coherent model member).fields field present).unknown
  · intro name refers
    obtain ⟨target, targetMember, rfl, keeps⟩ :=
      exists_keepsName member present (Shape.mem_of_resolve_eq_model refers)
    exact ⟨_, List.mem_map_of_mem targetMember,
      Language.constructsEmpty_modelLines inPlace _ keeps⟩

/-- In this document a whole number stands beside a fraction, a trip has a guide that no sample
shows, and an object without keys stands beside lists of lists. -/
def travelPlans : List (String × Json) :=
  [("seats", .integer 4), ("price", .float (.finite false 3 (-1))), ("paid", .boolean true),
   ("trip", .object [("city", .string "Oslo"), ("guide", .object [("name", .null)])]),
   ("spare", .object []), ("maps", .array [.array [.object [("page", .integer 2)]]]),
   ("note", .null)]

/-- All fields of the classes for the document are initialized. -/
theorem travelPlans_initialized :
    (Json.object travelPlans).WellFormed ∧
      (Json.object travelPlans).heldObject? = some travelPlans ∧
      Language.dart.InitializesInPlace (manualSettings false) ∧
      ∃ extraction, ofDocument false "Trip" (.object travelPlans) = .ok extraction ∧
        Language.dart.InitializesFields (manualSettings false) extraction.models := by
  have wellFormed : (Json.object travelPlans).WellFormed := by decide
  have inPlace : Language.dart.InitializesInPlace (manualSettings false) := by decide
  exact ⟨wellFormed, rfl, inPlace,
    fields_initialized wellFormed rfl false "Trip" .dart (manualSettings false) inPlace⟩

end Extraction

end Exemplar
