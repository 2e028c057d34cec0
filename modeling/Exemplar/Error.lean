import Exemplar.Language
import Exemplar.Shape.Basic

namespace Exemplar

/-- These are the things that may be looked up in vain. -/
inductive Lookup where
  | member (key : String)
  | members
  | item
  | entry (key : String)
  | placeholder (name : String)
  deriving DecidableEq

/-- These are the causes for which no code is generated. -/
inductive Error where
  | unknownLanguage (given : Json)
  | styleNotText (language : Language) (given : Json)
  | unknownStyle (language : Language) (given : String)
  | emptyArray
  | notAnObject (document : Json)
  | unknownPrimitive (name : String)
  | missing (lookup : Lookup)
  | noTableKey (given : Json)

/-- An error concerns the options, the document, or a step of the program itself. -/
inductive Concern where
  | options
  | document
  | program
  deriving DecidableEq

/-- A lookup that finds nothing is an error. -/
def Lookup.found {α : Type} (lookup : Lookup) : Option α → Except Error α
  | some value => .ok value
  | none => .error (.missing lookup)

def Lookup.message : Lookup → String
  | .member key => Json.displayString key
  | .members => "the sample has no members"
  | .item => "list index out of range"
  | .entry key => Json.displayString key
  | .placeholder name => Json.displayString name ++ " is undefined"

namespace Error

/-- An unsupported language or style is an option, and the structure of a document is invalid when
it has no object to read a model off. -/
def concern : Error → Concern
  | .unknownLanguage _ => .options
  | .styleNotText _ _ => .options
  | .unknownStyle _ _ => .options
  | .emptyArray => .document
  | .notAnObject _ => .document
  | .unknownPrimitive _ => .program
  | .missing _ => .program
  | .noTableKey _ => .program

def expectation (names : String) : String :=
  " (expected one of: " ++ names ++ ")"

/-- This function starts the message about a document that no model describes. -/
def invalidStructure (reason : String) : String :=
  "Invalid data structure for model generation: " ++ reason

/-- This function words an error. -/
def message : Error → String
  | .unknownLanguage given =>
      "Unsupported target language: " ++ given.display ++
        expectation (", ".intercalate (Language.all.map Language.name))
  | .styleNotText language given =>
      "Serialization style must be a string, got " ++ given.display ++
        expectation language.styleNames
  | .unknownStyle language given =>
      "Serialization style " ++ Json.displayString given ++ " is not supported for " ++
        language.name ++ expectation language.styleNames
  | .emptyArray => invalidStructure "empty array"
  | .notAnObject document => invalidStructure ("expected an object, got " ++ document.kindName)
  | .unknownPrimitive name => "Unknown primitive type: " ++ name
  | .missing lookup => lookup.message
  | .noTableKey (.array _) => "unhashable type: 'list'"
  | .noTableKey _ => "unhashable type: 'dict'"

end Error

/-- This function finds the language that a user asks for. -/
def Language.parse (value : Json) : Except Error Language :=
  match Language.ofValue? value with
  | some language => .ok language
  | none => .error (.unknownLanguage value)

/-- This function finds the style that a user asks for. -/
def Language.normalizeStyle (language : Language) : Json → Except Error Style
  | .string given =>
      match language.styleOf? given with
      | some style => .ok style
      | none => .error (.unknownStyle language given)
  | given => .error (.styleNotText language given)

def Primitive.parse (name : String) : Except Error Primitive :=
  match Primitive.ofName? name with
  | some primitive => .ok primitive
  | none => .error (.unknownPrimitive name)

end Exemplar
