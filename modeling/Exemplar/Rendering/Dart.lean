import Exemplar.FileName
import Exemplar.Rendering.Basic
import Exemplar.Source.Literal

namespace Exemplar.Rendering.Dart

def jsonMap : String := "Map<String, dynamic>"

def vocabulary : Vocabulary where
  types := [("string", "String"), ("integer", "int"), ("float", "double"), ("boolean", "bool")]
  dynamic := "dynamic"
  object := jsonMap
  list item := "List<" ++ item ++ ">"
  zeros := [("String", "''"), ("int", "0"), ("double", "0.0"), ("bool", "false")]
  emptyObject := "\x7b\x7d"
  emptyList := "[]"
  fresh model := model ++ "()"

/-- A field that admits null needs no initial value. -/
def initialText? (known : NameSet) (field : Field) : Except Error (Option String) :=
  if field.nullable ∨ field.shape = .dynamic then .ok none
  else vocabulary.initialText? known field

/-- A dynamic type admits null without a mark. -/
def fieldType (known : NameSet) (field : Field) : Except Error String := do
  let type ← vocabulary.typeText known field.shape
  .ok (if field.nullable ∧ type ≠ vocabulary.dynamic then type ++ "?" else type)

/-- These methods convert a decoded number to the type of a field. -/
def conversions : List (String × String) :=
  [(Primitive.float.name, "toDouble"), (Primitive.integer.name, "toInt")]

/-- The items of a list are converted one by one when they are numbers or known models. -/
def itemRead? (known : NameSet) (shape : Shape) : Option String := do
  let item ← shape.item?
  match if item.isPrimitive then conversions.lookup item.name else none with
  | some conversion => some ("map((e) => (e as num)." ++ conversion ++ "()).toList()")
  | none =>
      let model ← item.knownModel? known
      some ("map((e) => " ++ model ++ ".fromJson(e as " ++ jsonMap ++ ")).toList()")

/-- A nullable value is tested before it is read. -/
def unlessNull (field : Field) (access read : String) : String :=
  if field.nullable then access ++ " == null ? null : " ++ read else read

/-- A nullable value is cast to a nullable type before a method is called. -/
def castCall (field : Field) (access type call : String) : String :=
  if field.nullable then "(" ++ access ++ " as " ++ type ++ "?)?." ++ call
  else "(" ++ access ++ " as " ++ type ++ ")." ++ call

/-- This function writes the expression that reads a field whose value and items are no models. -/
def plainRead (known : NameSet) (field : Field) (access : String) : Except Error String := do
  if field.shape.isPrimitive then
    if field.shape.name = Primitive.float.name then
      .ok (castCall field access "num" "toDouble()")
    else if field.shape.name = Primitive.integer.name then
      .ok (castCall field access "num" "toInt()")
    else
      .ok (access ++ " as " ++ (← fieldType known field))
  else if field.shape.isList then
    let type ← vocabulary.typeText known field.shape
    .ok (unlessNull field access (type ++ ".from(" ++ access ++ " as List<dynamic>)"))
  else if field.shape.isReference then
    .ok (access ++ " as " ++ (← fieldType known field))
  else
    .ok access

/-- This function writes the expression that reads a field. -/
def readText (known : NameSet) (field : Field) : Except Error String :=
  let access := "json[" ++ Dart.quoted field.key ++ "]"
  match field.shape.knownModel? known with
  | some model =>
      .ok (unlessNull field access (model ++ ".fromJson(" ++ access ++ " as " ++ jsonMap ++ ")"))
  | none =>
      match itemRead? known field.shape with
      | some items => .ok (castCall field access "List<dynamic>" items)
      | none => plainRead known field access

/-- This function writes the expression that writes a field. -/
def writeText (known : NameSet) (field : Field) : String :=
  let operator := if field.nullable then "?." else "."
  match field.shape.knownModel? known with
  | some _ => field.name ++ operator ++ "toJson()"
  | none =>
      match field.shape.item?.bind (Shape.knownModel? known) with
      | some _ => field.name ++ operator ++ "map((e) => e.toJson()).toList()"
      | none => field.name

/-- The last line of a statement ends in a semicolon. -/
def closed (lines : List String) : List String :=
  match lines.reverse with
  | [] => []
  | last :: earlier => ((last ++ ";") :: earlier).reverse

/-- This function writes the body of the routine that reads a model. -/
def readLines (options : Options) (known : NameSet) (model : Model) :
    Except Error (List String) := do
  if model.fields.isEmpty then
    .ok ["return " ++ model.name ++ "();"]
  else if options.includeConstructor.truthy then
    let arguments ← model.fields.mapM fun field => do
      .ok ("  " ++ field.name ++ ": " ++ (← readText known field) ++ ",")
    .ok (["return " ++ model.name ++ "("] ++ arguments ++ [");"])
  else
    let assignments ← model.fields.mapM fun field => do
      .ok ("  .." ++ field.name ++ " = " ++ (← readText known field))
    .ok (closed (["return " ++ model.name ++ "()"] ++ assignments))

def declaration (options : Options) (known : NameSet) (field : Field) (type : String) :
    Except Error String := do
  if options.includeConstructor.truthy then
    .ok ("final " ++ type ++ " " ++ field.name ++ ";")
  else
    let initial ← initialText? known field
    .ok (type ++ " " ++ field.name ++
      (match initial with
        | some value => " = " ++ value
        | none => "") ++ ";")

def annotations (options : Options) (field : Field) : List String :=
  if options.hasStyle .jsonSerializable ∧ field.isRenamed then
    ["@JsonKey(name: " ++ Dart.quoted field.key ++ ")"]
  else
    []

def record (options : Options) (field : Field) : Rendering Json := do
  let known ← knownModels
  let type ← attempt (fieldType known field)
  let declaration ← attempt (declaration options known field type)
  return .object
    [("name", .string field.name), ("type", .string type),
     ("declaration", .string declaration),
     ("annotations", .array ((annotations options field).map Json.string)),
     ("required", .boolean (!field.nullable && field.shape != .dynamic)),
     ("json_key", .string (Dart.quoted field.key)),
     ("to_json", .string (writeText known field))]

/-- A class with a factory has no implicit constructor, so every style but the plain one declares a
constructor. -/
def constructorKind (options : Options) (model : Model) : Json :=
  if options.includeConstructor.truthy && !model.fields.isEmpty then .string "named"
  else if options.includeConstructor.truthy || !options.hasStyle .plain then .string "default"
  else .null

/-- The body of the reading routine is known only in the style that writes it. -/
def classVariables (options : Options) (known : NameSet) (model : Model) : Except Error Scope := do
  let body ←
    if options.hasStyle .fromJsonToJson then do
      .ok [("from_json_body", .array ((← readLines options known model).map Json.string))]
    else
      .ok []
  .ok
    ([("annotation",
        if options.hasStyle .jsonSerializable then .string "@JsonSerializable()" else .null),
      ("constructor", constructorKind options model)] ++ body)

def headerVariables (_ : Options) (set : ModelSet) : Scope :=
  [("part_file", .string (Dart.fileName set.root.name ++ ".g.dart"))]

/-- A field is declared below its annotations. -/
def fieldTemplate : Template :=
  [.each "field_annotation" (.part "field" "annotations")
     [.line ["  ", .shown "field_annotation"]],
   .line ["  ", .shown (.part "field" "declaration")]]

/-- A constructor with parameters takes them by their names. -/
def namedTemplate : Template :=
  [.line [],
   .line ["  ", .shown "name", "(\x7b"],
   .each "field" "fields"
     [.line ["    ", .chosen (.holds (.part "field" "required")) "required ", "this.",
       .shown (.part "field" "name"), ","]],
   .line ["  \x7d);"]]

/-- The routines may be left to a code generator. -/
def generatedTemplate : Template :=
  [.line [],
   .line ["  factory ", .shown "name", ".fromJson(Map<String, dynamic> json) => _$",
     .shown "name", "FromJson(json);"],
   .line [],
   .line ["  Map<String, dynamic> toJson() => _$", .shown "name", "ToJson(this);"]]

/-- The routines may be written out. -/
def writtenTemplate : Template :=
  [.line [],
   .line ["  factory ", .shown "name", ".fromJson(Map<String, dynamic> json) \x7b"],
   .each "line" "from_json_body" [.line ["    ", .shown "line"]],
   .line ["  \x7d"],
   .line [],
   .line ["  Map<String, dynamic> toJson() \x7b"],
   .line ["    return \x7b"],
   .each "field" "fields"
     [.line ["      ", .shown (.part "field" "json_key"), ": ", .shown (.part "field" "to_json"),
       ","]],
   .line ["    \x7d;"],
   .line ["  \x7d"]]

def classTemplate : Template :=
  [.choice (.holds "annotation") [.line [.shown "annotation"]] [],
   .line ["class ", .shown "name", " \x7b"],
   .each "field" "fields" fieldTemplate,
   .choice (.isText "constructor" "named") namedTemplate
     [.choice (.isText "constructor" "default") [.line [], .line ["  ", .shown "name", "();"]] []],
   .choice (.isText "style" "json-serializable") generatedTemplate
     [.choice (.isText "style" "from-json-to-json") writtenTemplate []],
   .line ["\x7d"]]

def headerTemplate : Template :=
  [.choice (.isText "style" "json-serializable")
    [.line ["import 'package:json_annotation/json_annotation.dart';"],
     .line [],
     .line ["part '", .shown "part_file", "';"]] []]

def renderer : Renderer where
  record := record
  classVariables := classVariables
  prepare _ := pure ()
  headerVariables := headerVariables
  classTemplate := classTemplate
  headerTemplate := headerTemplate

end Exemplar.Rendering.Dart
