import Exemplar.FileName
import Exemplar.Json.Quoted
import Exemplar.Rendering.Basic

namespace Exemplar.Rendering.TypeScript

def vocabulary : Vocabulary where
  types :=
    [("string", "string"), ("integer", "number"), ("float", "number"), ("boolean", "boolean")]
  dynamic := "any"
  object := "Record<string, any>"
  list item := item ++ "[]"
  zeros := [("string", "\"\""), ("number", "0"), ("boolean", "false")]
  emptyObject := "\x7b\x7d"
  emptyList := "[]"
  fresh model := "new " ++ model ++ "()"

/-- A nullable field needs no initial value. -/
def initialText? (known : NameSet) (field : Field) : Except Error (Option String) :=
  if field.nullable then .ok none else vocabulary.initialText? known field

/-- Fields are initialized in place by classes without a constructor. -/
def inPlace (options : Options) : Bool :=
  !options.hasStyle .typeOnly && !options.includeConstructor.truthy

/-- The decorator of a model is imported when it is written. A model without a name has none. -/
def typeDecorators (field : Field) : Rendering (List String) := do
  match field.shape.heldModel? (← knownModels) with
  | none => return []
  | some model =>
      if model = "" then
        return []
      else
        addImport "Type"
        return ["@Type(() => " ++ model ++ ")"]

/-- The decorator of a key is imported when it is written. -/
def keyDecorators (field : Field) : Rendering (List String) := do
  if field.isRenamed then
    addImport "Expose"
    return ["@Expose(\x7b name: " ++ Json.quoted field.key ++ " \x7d)"]
  else
    return []

/-- Only one style has decorators. -/
def decorators (options : Options) (field : Field) : Rendering (List String) := do
  if options.hasStyle .classTransformer then
    let types ← typeDecorators field
    let keys ← keyDecorators field
    return types ++ keys
  else
    return []

def declaration (field : Field) (type : String) (initial : Option String) : String :=
  field.name ++ (if field.nullable then "?" else "") ++ ": " ++ type ++
    (match initial with
      | some value => " = " ++ value
      | none => "") ++ ";"

def record (options : Options) (field : Field) : Rendering Json := do
  let known ← knownModels
  let type ← attempt (vocabulary.typeText known field.shape)
  let initial ← attempt (if inPlace options then initialText? known field else .ok none)
  let decorators ← decorators options field
  return .object
    [("name", .string field.name), ("type", .string type),
     ("declaration", .string (declaration field type initial)),
     ("decorators", .array (decorators.map Json.string))]

/-- A step of the pass puts the parameter of a field in front of the later ones. The flag tells
whether those may all be left out. -/
def addParameter (known : NameSet) (field : Field) (later : List String × Bool) :
    Except Error (List String × Bool) := do
  let type ← vocabulary.typeText known field.shape
  if !field.nullable then
    .ok ((field.name ++ ": " ++ type) :: later.1, false)
  else if later.2 then
    .ok ((field.name ++ "?: " ++ type) :: later.1, true)
  else
    .ok ((field.name ++ ": " ++ type ++ " | undefined") :: later.1, false)

/-- This function passes over all fields of a model. -/
def parameters (known : NameSet) (model : Model) : Except Error String := do
  let (texts, _) ← model.fields.foldrM (addParameter known) ([], true)
  .ok (", ".intercalate texts)

def classVariables (options : Options) (known : NameSet) (model : Model) : Except Error Scope := do
  let isInterface := options.hasStyle .typeOnly
  .ok
    [("kind", .string (if isInterface then "interface" else "class")),
     ("include_constructor", .boolean (options.includeConstructor.truthy && !isInterface)),
     ("constructor_params", .string (← parameters known model))]

/-- A field is declared below its decorators. -/
def fieldTemplate : Template :=
  [.each "decorator" (.part "field" "decorators") [.line ["  ", .shown "decorator"]],
   .line ["  ", .shown (.part "field" "declaration")]]

/-- A constructor assigns its parameters to the fields. -/
def constructorTemplate : Template :=
  [.line [],
   .line ["  constructor(", .shown "constructor_params", ") \x7b"],
   .each "field" "fields"
     [.line ["    this.", .shown (.part "field" "name"), " = ", .shown (.part "field" "name"),
       ";"]],
   .line ["  \x7d"]]

def classTemplate : Template :=
  [.line ["export ", .shown "kind", " ", .shown "name", " \x7b"],
   .each "field" "fields" fieldTemplate,
   .choice (.holds "include_constructor") constructorTemplate [],
   .line ["\x7d"]]

def headerTemplate : Template :=
  [.choice (.holds "imports")
    [.line ["import \x7b ", .joined ", " "imports", " \x7d from \"class-transformer\";"]] []]

def renderer : Renderer where
  record := record
  classVariables := classVariables
  prepare _ := pure ()
  headerVariables _ _ := []
  classTemplate := classTemplate
  headerTemplate := headerTemplate

end Exemplar.Rendering.TypeScript
