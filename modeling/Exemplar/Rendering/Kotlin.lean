import Exemplar.FileName
import Exemplar.Rendering.Basic
import Exemplar.Source.Literal

namespace Exemplar.Rendering.Kotlin

def vocabulary : Vocabulary where
  types := [("string", "String"), ("integer", "Int"), ("float", "Double"), ("boolean", "Boolean")]
  dynamic := "Any"
  object := "Map<String, Any?>"
  list item := "List<" ++ item ++ ">"
  zeros :=
    [("String", "\"\""), ("Int", "0"), ("Double", "0.0"), ("Boolean", "false"), ("Any", "Any()")]
  emptyObject := "emptyMap()"
  emptyList := "emptyList()"
  fresh model := model ++ "()"

/-- A nullable field starts with null. -/
def initialText? (known : NameSet) (field : Field) : Except Error (Option String) :=
  if field.nullable then .ok (some "null") else vocabulary.initialText? known field

/-- Every type takes a mark when it admits null. -/
def fieldType (known : NameSet) (field : Field) : Except Error String := do
  let type ← vocabulary.typeText known field.shape
  .ok (if field.nullable then type ++ "?" else type)

/-- Three styles have an annotation for keys, with its import. -/
def keyAnnotations : List (String × String × String) :=
  [("kotlinx-serialization", "SerialName", "kotlinx.serialization.SerialName"),
   ("jackson", "JsonProperty", "com.fasterxml.jackson.annotation.JsonProperty"),
   ("gson", "SerializedName", "com.google.gson.annotations.SerializedName")]

/-- A list or an object cannot be looked up in a table. -/
def keyAnnotation? (options : Options) : Except Error (Option (String × String)) :=
  match options.serializationStyle with
  | .string style => .ok (keyAnnotations.lookup style)
  | .array items => .error (.noTableKey (.array items))
  | .object members => .error (.noTableKey (.object members))
  | _ => .ok none

/-- The annotation of a key is imported when it is written. -/
def annotations (options : Options) (field : Field) : Rendering (List String) := do
  if field.isRenamed then
    match ← attempt (keyAnnotation? options) with
    | none => return []
    | some (marker, path) =>
        addImport path
        return ["@" ++ marker ++ "(" ++ Kotlin.quoted field.key ++ ")"]
  else
    return []

def declaration (options : Options) (known : NameSet) (field : Field) (type : String) :
    Except Error String := do
  if options.includeConstructor.truthy then
    .ok ("val " ++ field.name ++ ": " ++ type ++ (if field.nullable then " = null" else ""))
  else
    let initial ← initialText? known field
    .ok ("var " ++ field.name ++ ": " ++ type ++ " = " ++ initial.getD "None")

def record (options : Options) (field : Field) : Rendering Json := do
  let known ← knownModels
  let type ← attempt (fieldType known field)
  let declaration ← attempt (declaration options known field type)
  let annotations ← annotations options field
  return .object
    [("name", .string field.name), ("type", .string type),
     ("declaration", .string declaration),
     ("annotations", .array (annotations.map Json.string))]

/-- A data class needs at least one parameter. -/
def classVariables (options : Options) (_ : NameSet) (model : Model) : Except Error Scope :=
  .ok
    [("annotation",
       if options.hasStyle .kotlinxSerialization then .string "@Serializable" else .null),
     ("data_class",
       .boolean (options.includeConstructor.truthy && !model.fields.isEmpty))]

/-- The annotation of classes is imported whether there are renamed fields or not. -/
def prepare (options : Options) : Rendering Unit := do
  if options.hasStyle .kotlinxSerialization then
    addImport "kotlinx.serialization.Serializable"

def headerVariables (options : Options) (_ : ModelSet) : Scope :=
  [("package_name",
    if options.packageName.truthy then options.packageName else .string Options.defaultPackage)]

/-- These parts write a field below its annotations, with a text behind it. -/
def fieldParts (rest : List Piece) : Template :=
  [.each "field_annotation" (.part "field" "annotations")
     [.line ["    ", .shown "field_annotation"]],
   .line (.fixed "    " :: .shown (.part "field" "declaration") :: rest)]

/-- The parameters of a data class are separated by commas. -/
def dataTemplate : Template :=
  [.line ["data class ", .shown "name", "("],
   .each "field" "fields" (fieldParts [.chosen (.fails (.part "loop" "last")) ","]),
   .line [")"]]

def plainTemplate : Template :=
  [.line ["class ", .shown "name", " \x7b"],
   .each "field" "fields" (fieldParts []),
   .line ["\x7d"]]

def classTemplate : Template :=
  [.choice (.holds "annotation") [.line [.shown "annotation"]] [],
   .choice (.holds "data_class") dataTemplate
     [.choice (.holds "fields") plainTemplate [.line ["class ", .shown "name"]]]]

def headerTemplate : Template :=
  [.line ["package ", .shown "package_name"],
   .choice (.holds "imports")
     [.line [],
      .each "import" "imports" [.line ["import ", .shown "import"]]]
     []]

def renderer : Renderer where
  record := record
  classVariables := classVariables
  prepare := prepare
  headerVariables := headerVariables
  classTemplate := classTemplate
  headerTemplate := headerTemplate

end Exemplar.Rendering.Kotlin
