import Exemplar.Source.Dialect
import Exemplar.Source.Literal

namespace Exemplar.Dart

def objectType : String := "Map<String, dynamic>"

/-- This dialect spells Dart types. -/
def dialect : Dialect where
  primitive
    | .string => "String"
    | .integer => "int"
    | .float => "double"
    | .boolean => "bool"
  dynamic := "dynamic"
  object := objectType
  list item := "List<" ++ item ++ ">"
  initializer
    | .emptyList => "[]"
    | .emptyObject => "\x7b\x7d"
    | .fresh model => model ++ "()"
    | .zero .string => "''"
    | .zero .integer => "0"
    | .zero .float => "0.0"
    | .zero .boolean => "false"

/-- The type `dynamic` admits null without a mark. -/
def nullableType (type : FieldType) (nullable : Bool) : String :=
  let text := dialect.type type
  if nullable ∧ text ≠ dialect.dynamic then text ++ "?" else text

/-- A property may carry the key that it is read from. -/
structure Property where
  key : Option String
  final : Bool
  type : FieldType
  nullable : Bool
  name : String
  initializer : Option Initializer
  deriving DecidableEq

/-- A named parameter sets the property of its name. -/
structure Parameter where
  required : Bool
  name : String
  deriving DecidableEq

/-- A class without a constructor of its own has an implicit one without parameters. -/
inductive Constructor where
  | implicit
  | empty
  | named (parameters : List Parameter)
  deriving DecidableEq

/-- A decoded number may be an integer where a class wants a fraction, and the other way round. -/
inductive Conversion where
  | toInt
  | toDouble
  deriving DecidableEq

/-- This is how a field is read from a decoded object. -/
inductive Read where
  | model (name : String)
  | models (name : String)
  | number (conversion : Conversion)
  | numbers (conversion : Conversion)
  | cast (type : FieldType)
  | copy (type : FieldType)
  | asIs
  deriving DecidableEq

/-- This is how a field is written into an encoded object. -/
inductive Write where
  | model
  | models
  | asIs
  deriving DecidableEq

/-- An entry converts one field under one key. -/
structure Entry where
  name : String
  key : String
  nullable : Bool
  read : Read
  write : Write
  deriving DecidableEq

/-- The routines of a class are absent, left to a code generator, or written out. -/
inductive Routines where
  | absent
  | generated
  | written (entries : List Entry)
  deriving DecidableEq

/-- A class declares one model. -/
structure Class where
  annotated : Bool
  name : String
  properties : List Property
  constructor : Constructor
  routines : Routines
  deriving DecidableEq

/-- A file may have a part that a code generator fills. -/
structure File where
  part : Option String
  classes : List Class
  deriving DecidableEq

/-- This function writes a property below its annotation. -/
def Property.lines (property : Property) : List String :=
  (match property.key with
    | some key => ["  @JsonKey(name: " ++ quoted key ++ ")"]
    | none => []) ++
    ["  " ++ (if property.final then "final " else "") ++
      nullableType property.type property.nullable ++ " " ++ property.name ++
      (match property.initializer with
        | some value => " = " ++ dialect.initializer value
        | none => "") ++ ";"]

def Parameter.line (parameter : Parameter) : String :=
  "    " ++ (if parameter.required then "required " else "") ++ "this." ++ parameter.name ++ ","

/-- This function writes the constructor of a class. -/
def Constructor.lines (name : String) : Constructor → List String
  | .implicit => []
  | .empty => ["", "  " ++ name ++ "();"]
  | .named parameters =>
      ["", "  " ++ name ++ "(\x7b"] ++ parameters.map Parameter.line ++ ["  \x7d);"]

def Conversion.text : Conversion → String
  | .toInt => "toInt()"
  | .toDouble => "toDouble()"

/-- This function calls the routine that reads a model. -/
def readModel (name value : String) : String :=
  name ++ ".fromJson(" ++ value ++ " as " ++ objectType ++ ")"

/-- A nullable value is tested before it is read. -/
def unlessNull (nullable : Bool) (value read : String) : String :=
  if nullable then value ++ " == null ? null : " ++ read else read

/-- A nullable value is cast to a nullable type before a method is called. -/
def castAndCall (nullable : Bool) (value type call : String) : String :=
  if nullable then "(" ++ value ++ " as " ++ type ++ "?)?." ++ call
  else "(" ++ value ++ " as " ++ type ++ ")." ++ call

/-- This function maps the items of a list. -/
def mapItems (item : String) : String :=
  "map((e) => " ++ item ++ ").toList()"

/-- This function writes the expression that reads a value. -/
def Read.text (nullable : Bool) (value : String) : Read → String
  | .model name => unlessNull nullable value (readModel name value)
  | .models name => castAndCall nullable value "List<dynamic>" (mapItems (readModel name "e"))
  | .number conversion => castAndCall nullable value "num" conversion.text
  | .numbers conversion =>
      castAndCall nullable value "List<dynamic>" (mapItems ("(e as num)." ++ conversion.text))
  | .cast type => value ++ " as " ++ nullableType type nullable
  | .copy type =>
      unlessNull nullable value (dialect.type type ++ ".from(" ++ value ++ " as List<dynamic>)")
  | .asIs => value

def Write.text (nullable : Bool) (name : String) : Write → String
  | .model => name ++ (if nullable then "?." else ".") ++ "toJson()"
  | .models => name ++ (if nullable then "?." else ".") ++ mapItems "e.toJson()"
  | .asIs => name

def Entry.readText (entry : Entry) : String :=
  entry.read.text entry.nullable ("json[" ++ quoted entry.key ++ "]")

def Entry.writeText (entry : Entry) : String :=
  entry.write.text entry.nullable entry.name

/-- The last line of a statement ends in a semicolon. -/
def endStatement : List String → List String
  | [] => []
  | [last] => [last ++ ";"]
  | first :: rest => first :: endStatement rest

/-- The fields are read into the parameters of the named constructor, or else into the fields of a
fresh object. -/
def readLines (name : String) (constructor : Constructor) (entries : List Entry) : List String :=
  match constructor with
  | .named _ =>
      ["return " ++ name ++ "("] ++
        entries.map (fun entry => "  " ++ entry.name ++ ": " ++ entry.readText ++ ",") ++ [");"]
  | _ =>
      endStatement (("return " ++ name ++ "()") ::
        entries.map fun entry => "  .." ++ entry.name ++ " = " ++ entry.readText)

def fromJsonHeader (name : String) : String :=
  "  factory " ++ name ++ ".fromJson(" ++ objectType ++ " json)"

def toJsonHeader : String :=
  "  " ++ objectType ++ " toJson()"

/-- This function writes the routines of a class. -/
def Routines.lines (name : String) (constructor : Constructor) : Routines → List String
  | .absent => []
  | .generated =>
      ["", fromJsonHeader name ++ " => _$" ++ name ++ "FromJson(json);",
       "", toJsonHeader ++ " => _$" ++ name ++ "ToJson(this);"]
  | .written entries =>
      ["", fromJsonHeader name ++ " \x7b"] ++
        (readLines name constructor entries).map (fun line => "    " ++ line) ++
        ["  \x7d", "", toJsonHeader ++ " \x7b", "    return \x7b"] ++
        entries.map (fun entry =>
          "      " ++ quoted entry.key ++ ": " ++ entry.writeText ++ ",") ++
        ["    \x7d;", "  \x7d"]

/-- This function writes a class. -/
def Class.lines (declared : Class) : List String :=
  (if declared.annotated then ["@JsonSerializable()"] else []) ++
    ["class " ++ declared.name ++ " \x7b"] ++ declared.properties.flatMap Property.lines ++
    declared.constructor.lines declared.name ++
    declared.routines.lines declared.name declared.constructor ++ ["\x7d"]

/-- This function writes the directives of a file with a generated part. -/
def File.directives (file : File) : List String :=
  match file.part with
  | none => []
  | some name =>
      ["import 'package:json_annotation/json_annotation.dart';", "part '" ++ name ++ ".g.dart';"]

def File.text (file : File) : String :=
  "\n\n".intercalate
    (file.directives ++ file.classes.map fun declared => "\n".intercalate declared.lines) ++ "\n"

end Exemplar.Dart
