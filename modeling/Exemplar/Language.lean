import Exemplar.Json.Display
import Exemplar.Unicode.Blank
import Exemplar.Unicode.Casing

namespace Exemplar

/-- These are the languages that models are generated in. -/
inductive Language where
  | typeScript
  | dart
  | kotlin
  deriving DecidableEq

/-- These are the styles of serialization of all languages. The plain style adds no serialization
code. -/
inductive Style where
  | plain
  | classTransformer
  | typeOnly
  | jsonSerializable
  | fromJsonToJson
  | kotlinxSerialization
  | jackson
  | gson
  deriving DecidableEq

/-- This function returns the canonical name of a style. -/
def Style.name : Style → String
  | .plain => "none"
  | .classTransformer => "class-transformer"
  | .typeOnly => "type-only"
  | .jsonSerializable => "json-serializable"
  | .fromJsonToJson => "from-json-to-json"
  | .kotlinxSerialization => "kotlinx-serialization"
  | .jackson => "jackson"
  | .gson => "gson"

def Style.all : List Style :=
  [.plain, .classTransformer, .typeOnly, .jsonSerializable, .fromJsonToJson,
   .kotlinxSerialization, .jackson, .gson]

def Style.ofName? (name : String) : Option Style :=
  Style.all.find? fun style => style.name == name

/-- A style may also be given by the label that users know it by. -/
def Style.ofLabel? : String → Option Style
  | "@JsonSerializable" => some .jsonSerializable
  | "fromJson/toJson" => some .fromJsonToJson
  | "@Serializable" => some .kotlinxSerialization
  | "Jackson" => some .jackson
  | "Gson" => some .gson
  | _ => none

namespace Language

def all : List Language :=
  [.typeScript, .dart, .kotlin]

def name : Language → String
  | .typeScript => "typescript"
  | .dart => "dart"
  | .kotlin => "kotlin"

/-- Two languages may also be given by the extension of their files. -/
def ofAlias? : String → Option Language
  | "ts" => some .typeScript
  | "kt" => some .kotlin
  | _ => none

/-- This function finds a language by its name or alias. -/
def ofName? (name : String) : Option Language :=
  match ofAlias? name with
  | some language => some language
  | none => all.find? fun language => language.name == name

/-- A language may be given in capitals and with blanks around it. -/
def ofValue? (value : Json) : Option Language :=
  ofName? (String.ofList (Unicode.lower (Unicode.trim value.plainText.toList)))

/-- This function returns the extension of source files, without the point. -/
def extension : Language → String
  | .typeScript => "ts"
  | .dart => "dart"
  | .kotlin => "kt"

/-- The first style of a language is its default. -/
def styles : Language → List Style
  | .typeScript => [.plain, .classTransformer, .typeOnly]
  | .dart => [.plain, .jsonSerializable, .fromJsonToJson]
  | .kotlin => [.plain, .kotlinxSerialization, .jackson, .gson]

def styleNamed? (language : Language) (name : String) : Option Style :=
  language.styles.find? fun style => style.name == name

/-- This function finds the style that a user asks for. A label stands for its style, and a name may
be given in capitals. -/
def styleOf? (language : Language) (given : String) : Option Style :=
  let candidate := match Style.ofLabel? given with
    | some style => style.name
    | none => given
  match language.styleNamed? candidate with
  | some style => some style
  | none => language.styleNamed? (String.ofList (Unicode.lower candidate.toList))

def styleNames (language : Language) : String :=
  ", ".intercalate (language.styles.map Style.name)

/-- This function lists the styles of each language on a line of its own. -/
def styleLines (languages : List Language) : String :=
  "\n".intercalate (languages.map fun language => language.name ++ ": " ++ language.styleNames)

end Language

end Exemplar
