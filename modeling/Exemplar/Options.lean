import Exemplar.Error

namespace Exemplar

/-- These are the options that a user may set. -/
inductive OptionName where
  | includeConstructor
  | nullSafety
  | serializationStyle
  | packageName
  deriving DecidableEq

namespace OptionName

def all : List OptionName :=
  [.includeConstructor, .nullSafety, .serializationStyle, .packageName]

/-- This function returns the canonical key of an option. -/
def key : OptionName → String
  | .includeConstructor => "include_constructor"
  | .nullSafety => "null_safety"
  | .serializationStyle => "serialization_style"
  | .packageName => "package_name"

/-- An option may also be set under one of these keys. -/
def aliases : OptionName → List String
  | .includeConstructor => ["includeConstructor"]
  | .nullSafety => ["nullSafety"]
  | .serializationStyle => ["serializationOptions", "serializationStyle"]
  | .packageName => ["packageName"]

def ofKey? (key : String) : Option OptionName :=
  all.find? fun option => option.key == key || option.aliases.contains key

end OptionName

/-- Any JSON value may be given for an option. -/
structure Options where
  includeConstructor : Json := .boolean true
  nullSafety : Json := .boolean true
  serializationStyle : Json := .string Style.plain.name
  packageName : Json := .null

namespace Options

/-- This function returns the value of an option. -/
def get (options : Options) : OptionName → Json
  | .includeConstructor => options.includeConstructor
  | .nullSafety => options.nullSafety
  | .serializationStyle => options.serializationStyle
  | .packageName => options.packageName

/-- This function changes the value of an option. -/
def set (options : Options) (value : Json) : OptionName → Options
  | .includeConstructor => { options with includeConstructor := value }
  | .nullSafety => { options with nullSafety := value }
  | .serializationStyle => { options with serializationStyle := value }
  | .packageName => { options with packageName := value }

/-- A key that names no option changes nothing. -/
def assign (options : Options) (member : String × Json) : Options :=
  match OptionName.ofKey? member.1 with
  | some option => options.set member.2 option
  | none => options

/-- The last member that names an option decides its value. -/
def ofMembers (members : List (String × Json)) : Options :=
  members.foldl assign {}

def toMembers (options : Options) : List (String × Json) :=
  OptionName.all.map fun option => (option.key, options.get option)

/-- This function checks the style for a language and replaces it by its canonical name. -/
def validatedFor (options : Options) (language : Language) : Except Error Options := do
  let style ← language.normalizeStyle options.serializationStyle
  .ok { options with serializationStyle := .string style.name }

/-- This is the package of generated files when the user names none. -/
def defaultPackage : String := "com.example.models"

/-- This function returns the package that generated files declare. -/
def packageText (options : Options) : String :=
  if options.packageName.truthy then options.packageName.plainText else defaultPackage

def hasStyle (options : Options) (style : Style) : Bool :=
  options.serializationStyle.isText style.name

/-- A style counts only under its canonical name. -/
def style? (options : Options) : Option Style :=
  match options.serializationStyle with
  | .string name => Style.ofName? name
  | _ => none

end Options

/-- The settings are what the generated code depends on. A style that is unknown adds nothing. -/
structure Settings where
  constructors : Bool
  style : Option Style
  package : String
  deriving DecidableEq

/-- This function reads the settings off the options. -/
def Options.settings (options : Options) : Settings where
  constructors := options.includeConstructor.truthy
  style := options.style?
  package := options.packageText

end Exemplar
