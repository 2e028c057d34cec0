import Exemplar.Source.Dialect
import Exemplar.Source.Literal
import Exemplar.Unicode.Blank

namespace Exemplar.Kotlin

/-- This dialect spells Kotlin types. -/
def dialect : Dialect where
  primitive
    | .string => "String"
    | .integer => "Int"
    | .float => "Double"
    | .boolean => "Boolean"
  dynamic := "Any"
  object := "Map<String, Any?>"
  list item := "List<" ++ item ++ ">"
  initializer
    | .emptyList => "emptyList()"
    | .emptyObject => "emptyMap()"
    | .fresh model => model ++ "()"
    | .zero .string => "\"\""
    | .zero .integer => "0"
    | .zero .float => "0.0"
    | .zero .boolean => "false"

/-- Every type takes a mark when it admits null. -/
def nullableType (type : FieldType) (nullable : Bool) : String :=
  if nullable then dialect.type type ++ "?" else dialect.type type

/-- A property starts with null, with any object, or with the initial value of its type. -/
inductive InitialValue where
  | null
  | anyObject
  | natural (initializer : Initializer)
  deriving DecidableEq

def InitialValue.text : InitialValue → String
  | .null => "null"
  | .anyObject => "Any()"
  | .natural initializer => dialect.initializer initializer

/-- A key marker is an annotation that names the key a property is read from. -/
inductive KeyMarker where
  | serialName
  | jsonProperty
  | serializedName
  deriving DecidableEq

def KeyMarker.package : KeyMarker → String
  | .serialName => "kotlinx.serialization"
  | .jsonProperty => "com.fasterxml.jackson.annotation"
  | .serializedName => "com.google.gson.annotations"

def KeyMarker.name : KeyMarker → String
  | .serialName => "SerialName"
  | .jsonProperty => "JsonProperty"
  | .serializedName => "SerializedName"

def KeyMarker.importName (kind : KeyMarker) : String :=
  kind.package ++ "." ++ kind.name

def serializableImport : String := "kotlinx.serialization.Serializable"

/-- A marker holds the key of a renamed property. -/
structure Marker where
  kind : KeyMarker
  key : String
  deriving DecidableEq

/-- A property may have a marker and an initial value. -/
structure Property where
  marker : Option Marker
  name : String
  type : FieldType
  nullable : Bool
  initialValue : Option InitialValue
  deriving DecidableEq

/-- The properties of a data class are the parameters of its constructor. -/
inductive Form where
  | data
  | plain
  deriving DecidableEq

/-- A class declares one model. -/
structure Class where
  serializable : Bool
  form : Form
  name : String
  properties : List Property
  deriving DecidableEq

/-- A file declares its package. -/
structure File where
  package : String
  classes : List Class
  deriving DecidableEq

def Marker.text (marker : Marker) : String :=
  "@" ++ marker.kind.name ++ "(" ++ quoted marker.key ++ ")"

/-- A constructor parameter is read-only, and the other properties can be set. -/
def Form.keyword : Form → String
  | .data => "val"
  | .plain => "var"

/-- This function writes the declaration of a property. -/
def Property.text (form : Form) (property : Property) : String :=
  form.keyword ++ " " ++ property.name ++ ": " ++ nullableType property.type property.nullable ++
    match property.initialValue with
    | some value => " = " ++ value.text
    | none => ""

def Property.markerLines (property : Property) : List String :=
  match property.marker with
  | some marker => ["    " ++ marker.text]
  | none => []

/-- This function writes the parameters of a data class, with commas between them. -/
def parameterLines : List Property → List String
  | [] => []
  | [last] => last.markerLines ++ ["    " ++ last.text .data]
  | property :: rest =>
      property.markerLines ++ ["    " ++ property.text .data ++ ","] ++ parameterLines rest

def propertyLines (properties : List Property) : List String :=
  properties.flatMap fun property =>
    property.markerLines ++ ["    " ++ property.text .plain]

/-- A class without properties has no body, and blanks at the end of its name are dropped. -/
def Class.lines (declared : Class) : List String :=
  (if declared.serializable then ["@Serializable"] else []) ++
    match declared.properties, declared.form with
    | [], _ => [String.ofList (Unicode.trimEnd ("class " ++ declared.name).toList)]
    | properties, .data =>
        ["data class " ++ declared.name ++ "("] ++ parameterLines properties ++ [")"]
    | properties, .plain =>
        ["class " ++ declared.name ++ " \x7b"] ++ propertyLines properties ++ ["\x7d"]

namespace File

def markers (file : File) : List Marker :=
  file.classes.flatMap fun declared => declared.properties.filterMap Property.marker

/-- A file imports the annotations that appear in it. -/
def imports (file : File) : NameSet :=
  NameSet.ofList
    ((if file.classes.any Class.serializable then [serializableImport] else []) ++
      file.markers.map fun marker => marker.kind.importName)

/-- Blanks at the end of the package are dropped when no imports follow it. -/
def header (file : File) : List String :=
  let declaration := "package " ++ file.package
  if file.imports.isEmpty then
    [String.ofList (Unicode.trimEnd declaration.toList)]
  else
    [declaration, "\n".intercalate (file.imports.map fun name => "import " ++ name)]

def text (file : File) : String :=
  "\n\n".intercalate
    (file.header ++ file.classes.map fun declared => "\n".intercalate declared.lines) ++ "\n"

end File

end Exemplar.Kotlin
