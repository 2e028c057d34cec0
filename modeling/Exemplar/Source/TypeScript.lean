import Exemplar.Json.Quoted
import Exemplar.Source.Dialect

namespace Exemplar.TypeScript

/-- This dialect spells TypeScript types. -/
def dialect : Dialect where
  primitive
    | .string => "string"
    | .integer => "number"
    | .float => "number"
    | .boolean => "boolean"
  dynamic := "any"
  object := "Record<string, any>"
  list item := item ++ "[]"
  initializer
    | .emptyList => "[]"
    | .emptyObject => "\x7b\x7d"
    | .fresh model => "new " ++ model ++ "()"
    | .zero .string => "\"\""
    | .zero .integer => "0"
    | .zero .float => "0"
    | .zero .boolean => "false"

/-- A decorator tells how a field is read from a document. -/
inductive Decorator where
  | type (model : String)
  | expose (key : String)
  deriving DecidableEq

/-- A property carries decorators and may be optional or initialized in place. -/
structure Property where
  decorators : List Decorator
  name : String
  optional : Bool
  type : FieldType
  initializer : Option Initializer
  deriving DecidableEq

/-- A parameter may be left out only when all later ones may be left out too. -/
inductive Presence where
  | required
  | optional
  | undefinable
  deriving DecidableEq

/-- A parameter of a constructor sets the property of its name. -/
structure Parameter where
  name : String
  presence : Presence
  type : FieldType
  deriving DecidableEq

/-- An interface has no constructor. -/
inductive Form where
  | interface
  | plainClass
  | constructedClass (parameters : List Parameter)
  deriving DecidableEq

/-- A declaration introduces one type. -/
structure Declaration where
  form : Form
  name : String
  properties : List Property
  deriving DecidableEq

/-- A file is a list of declarations. -/
structure File where
  declarations : List Declaration
  deriving DecidableEq

def Decorator.importName : Decorator → String
  | .type _ => "Type"
  | .expose _ => "Expose"

def Decorator.text : Decorator → String
  | .type model => "@Type(() => " ++ model ++ ")"
  | .expose key => "@Expose(\x7b name: " ++ Json.quoted key ++ " \x7d)"

/-- This function writes the declaration of a property. -/
def Property.text (property : Property) : String :=
  property.name ++ (if property.optional then "?" else "") ++ ": " ++
    dialect.type property.type ++
    (match property.initializer with
      | some value => " = " ++ dialect.initializer value
      | none => "") ++ ";"

def Property.lines (property : Property) : List String :=
  property.decorators.map (fun decorator => "  " ++ decorator.text) ++ ["  " ++ property.text]

/-- This function writes a parameter. -/
def Parameter.text (parameter : Parameter) : String :=
  let type := dialect.type parameter.type
  match parameter.presence with
  | .required => parameter.name ++ ": " ++ type
  | .optional => parameter.name ++ "?: " ++ type
  | .undefinable => parameter.name ++ ": " ++ type ++ " | undefined"

def Form.keyword : Form → String
  | .interface => "interface"
  | _ => "class"

/-- Each parameter of a constructor is assigned to its property. -/
def Form.lines : Form → List String
  | .constructedClass parameters =>
      ["", "  constructor(" ++ ", ".intercalate (parameters.map Parameter.text) ++ ") \x7b"] ++
        parameters.map (fun parameter =>
          "    this." ++ parameter.name ++ " = " ++ parameter.name ++ ";") ++
        ["  \x7d"]
  | _ => []

def Declaration.lines (declaration : Declaration) : List String :=
  ["export " ++ declaration.form.keyword ++ " " ++ declaration.name ++ " \x7b"] ++
    declaration.properties.flatMap Property.lines ++ declaration.form.lines ++ ["\x7d"]

namespace File

def decorators (file : File) : List Decorator :=
  file.declarations.flatMap fun declaration =>
    declaration.properties.flatMap Property.decorators

/-- A file imports the decorators that appear in it. -/
def imports (file : File) : NameSet :=
  NameSet.ofList (file.decorators.map Decorator.importName)

/-- A file without decorators has no import line. -/
def importParts (file : File) : List String :=
  if file.imports.isEmpty then []
  else
    ["import \x7b " ++ ", ".intercalate file.imports ++ " \x7d from \"class-transformer\";"]

def text (file : File) : String :=
  "\n\n".intercalate
    (file.importParts ++
      file.declarations.map fun declaration => "\n".intercalate declaration.lines) ++ "\n"

end File

end Exemplar.TypeScript
