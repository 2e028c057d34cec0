import Exemplar.Emission
import Mathlib.Data.List.Forall2

namespace Exemplar

/-- The lines of a field are its annotations and then its declaration, which names the field. -/
structure FieldLines where
  annotations : List String
  before : String
  name : String
  after : String

def FieldLines.lines (field : FieldLines) : List String :=
  field.annotations ++ [field.before ++ field.name ++ field.after]

/-- A declaration may assign a value. -/
def assigned : Option String → String
  | some value => " = " ++ value
  | none => ""

/-- The lines of a class are its annotations, the line that opens it, the lines of its fields and
the lines below them. -/
structure ClassLines where
  annotations : List String
  opening : String
  fields : List FieldLines
  below : List String

def ClassLines.lines (declared : ClassLines) : List String :=
  declared.annotations ++ declared.opening ::
    (declared.fields.flatMap FieldLines.lines ++ declared.below)

/-- A file has blank lines between the parts of its header and its classes. -/
def fileText (header : List String) (classes : List ClassLines) : String :=
  "\n\n".intercalate
    (header ++ classes.map fun declared => "\n".intercalate declared.lines) ++ "\n"

namespace TypeScript

theorem Decorator.text_type (model : String) :
    (Decorator.type model).text = "@Type(() => " ++ model ++ ")" := rfl

theorem Decorator.text_expose (key : String) :
    (Decorator.expose key).text = "@Expose(\x7b name: " ++ Json.quoted key ++ " \x7d)" := rfl

/-- These are the lines of a property. -/
def fieldLines (property : Property) : FieldLines where
  annotations := property.decorators.map fun decorator => "  " ++ decorator.text
  before := "  "
  name := property.name
  after := (if property.optional then "?" else "") ++ ": " ++ dialect.type property.type ++
    assigned (property.initializer.map dialect.initializer) ++ ";"

theorem lines_property (property : Property) : property.lines = (fieldLines property).lines := by
  cases initial : property.initializer <;>
    simp [Property.lines, Property.text, FieldLines.lines, fieldLines, assigned, initial,
      String.append_assoc]

/-- These are the lines of a declaration. -/
def classLines (declared : Declaration) : ClassLines where
  annotations := []
  opening := "export " ++ declared.form.keyword ++ " " ++ declared.name ++ " \x7b"
  fields := declared.properties.map fieldLines
  below := declared.form.lines ++ ["\x7d"]

theorem lines_classLines (declared : Declaration) :
    (classLines declared).lines = declared.lines := by
  simp [ClassLines.lines, classLines, Declaration.lines, List.flatMap_map, ← lines_property]

end TypeScript

namespace Dart

/-- These are the lines of a property. -/
def fieldLines (property : Property) : FieldLines where
  annotations := match property.key with
    | some key => ["  @JsonKey(name: " ++ quoted key ++ ")"]
    | none => []
  before := "  " ++ (if property.final then "final " else "") ++
    nullableType property.type property.nullable ++ " "
  name := property.name
  after := assigned (property.initializer.map dialect.initializer) ++ ";"

theorem lines_eq_fieldLines (property : Property) :
    property.lines = (fieldLines property).lines := by
  cases key : property.key <;> cases initial : property.initializer <;>
    simp [Property.lines, FieldLines.lines, fieldLines, assigned, key, initial,
      String.append_assoc]

/-- These are the lines of a class. -/
def classLines (declared : Class) : ClassLines where
  annotations := if declared.annotated then ["@JsonSerializable()"] else []
  opening := "class " ++ declared.name ++ " \x7b"
  fields := declared.properties.map fieldLines
  below := declared.constructor.lines declared.name ++
    declared.routines.lines declared.name declared.constructor ++ ["\x7d"]

theorem lines_classLines (declared : Class) : (classLines declared).lines = declared.lines := by
  simp [ClassLines.lines, classLines, Class.lines, List.flatMap_map, ← lines_eq_fieldLines]

end Dart

namespace Kotlin

/-- These are the lines of a property with the given ending. -/
def fieldLines (form : Form) (ending : String) (property : Property) : FieldLines where
  annotations := property.markerLines
  before := "    " ++ form.keyword ++ " "
  name := property.name
  after := ": " ++ nullableType property.type property.nullable ++
    assigned (property.initialValue.map InitialValue.text) ++ ending

theorem lines_fieldLines (form : Form) (ending : String) (property : Property) :
    (fieldLines form ending property).lines =
      property.markerLines ++ ["    " ++ property.text form ++ ending] := by
  cases initial : property.initialValue <;>
    simp [FieldLines.lines, fieldLines, Property.text, assigned, initial, String.append_assoc]

/-- These are the lines of the parameters of a data class. All but the last end in a comma. -/
def parameterFields : List Property → List FieldLines
  | [] => []
  | [last] => [fieldLines .data "" last]
  | property :: rest => fieldLines .data "," property :: parameterFields rest

def propertyFields (properties : List Property) : Form → List FieldLines
  | .data => parameterFields properties
  | .plain => properties.map (fieldLines .plain "")

/-- These are the lines of a class. -/
def classLines (declared : Class) : ClassLines where
  annotations := if declared.serializable then ["@Serializable"] else []
  opening := match declared.properties, declared.form with
    | [], _ => String.ofList (Unicode.trimEnd ("class " ++ declared.name).toList)
    | _, .data => "data class " ++ declared.name ++ "("
    | _, .plain => "class " ++ declared.name ++ " \x7b"
  fields := propertyFields declared.properties declared.form
  below := match declared.properties, declared.form with
    | [], _ => []
    | _, .data => [")"]
    | _, .plain => ["\x7d"]

/-- The parameters of a data class are written by their lines. -/
theorem lines_parameterFields (properties : List Property) :
    (parameterFields properties).flatMap FieldLines.lines = parameterLines properties := by
  induction properties using parameterLines.induct with
  | case1 => rfl
  | case2 last => simp [parameterFields, parameterLines, lines_fieldLines]
  | case3 property rest notLast inductionHypothesis =>
      rw [parameterLines.eq_3 property rest notLast, parameterFields.eq_3 property rest notLast,
        List.flatMap_cons, inductionHypothesis, lines_fieldLines]

/-- A class is written by its lines. -/
theorem lines_classLines (declared : Class) : (classLines declared).lines = declared.lines := by
  obtain ⟨serializable, form, name, properties⟩ := declared
  -- A class without properties has one line in either form, and all others have a body.
  cases properties with
  | nil => cases form <;> rfl
  | cons property rest =>
      cases form with
      | data =>
          simp only [ClassLines.lines, classLines, propertyFields, lines_parameterFields]
          rfl
      | plain =>
          simp only [ClassLines.lines, classLines, propertyFields, List.flatMap_map,
            lines_fieldLines, String.append_empty]
          rfl

/-- What holds of the lines of a property with either ending holds of the properties of a class one
by one. -/
theorem forall₂_propertyFields {α : Type} {related : α → FieldLines → Prop} {form : Form}
    {property : α → Property} {items : List α}
    (unended : ∀ item ∈ items, related item (fieldLines form "" (property item)))
    (ended : ∀ item ∈ items, related item (fieldLines form "," (property item))) :
    List.Forall₂ related items (propertyFields (items.map property) form) := by
  cases form with
  | data =>
      induction items with
      | nil => exact .nil
      | cons item rest inductionHypothesis =>
          rw [List.forall_mem_cons] at unended ended
          cases rest with
          | nil => exact .cons unended.1 .nil
          | cons next later => exact .cons ended.1 (inductionHypothesis unended.2 ended.2)
  | plain =>
      rw [propertyFields, List.map_map, List.forall₂_map_right_iff, List.forall₂_same]
      exact unended

/-- What the lines of a property tell with any ending is told of the properties of a class one by
one. -/
theorem map_propertyFields {α : Type} {told : FieldLines → α} {expected : Property → α}
    {form : Form}
    (each : ∀ ending property, told (fieldLines form ending property) = expected property)
    (properties : List Property) :
    (propertyFields properties form).map told = properties.map expected := by
  have related : List.Forall₂ (fun property lines => told lines = expected property) properties
      (propertyFields (properties.map id) form) :=
    forall₂_propertyFields (fun property _ => each "" property) fun property _ => each "," property
  rw [List.map_id] at related
  generalize propertyFields properties form = fields at related ⊢
  induction related with
  | nil => rfl
  | cons first _ inductionHypothesis =>
      rw [List.map_cons, List.map_cons, first, inductionHypothesis]

end Kotlin

namespace Language

/-- This function lists the lines of the classes in the file of a model set. -/
def classLines (language : Language) (settings : Settings) (set : ModelSet) : List ClassLines :=
  match language with
  | .typeScript => (TypeScript.file settings set).declarations.map TypeScript.classLines
  | .dart => (Dart.file settings set).classes.map Dart.classLines
  | .kotlin => (Kotlin.file settings set).classes.map Kotlin.classLines

/-- This function lists the parts above the classes in the file of a model set. -/
def header (language : Language) (settings : Settings) (set : ModelSet) : List String :=
  match language with
  | .typeScript => (TypeScript.file settings set).importParts
  | .dart => (Dart.file settings set).directives
  | .kotlin => (Kotlin.file settings set).header

/-- The code of a model set is its header and its classes. -/
theorem code_emit (language : Language) (settings : Settings) (set : ModelSet) :
    (language.emit settings set).code =
      fileText (language.header settings set) (language.classLines settings set) := by
  cases language with
  | typeScript =>
      simp only [fileText, classLines, List.map_map, Function.comp_def, TypeScript.lines_classLines]
      rfl
  | dart =>
      simp only [fileText, classLines, List.map_map, Function.comp_def, Dart.lines_classLines]
      rfl
  | kotlin =>
      simp only [fileText, classLines, List.map_map, Function.comp_def, Kotlin.lines_classLines]
      rfl

end Language

end Exemplar
