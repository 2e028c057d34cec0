import Exemplar.Emission.Dart
import Exemplar.Emission.Kotlin
import Exemplar.Emission.TypeScript

/-
The emission of source text. Each language has its own source trees, and this module gives all of
them one face: the text of a model set, the name of its file, and the texts of single types and
values.
-/

namespace Exemplar

/-- An emission is the text of a file, the name suggested for it, and what it imports. -/
structure Emission where
  code : String
  fileName : String
  imports : NameSet
  deriving DecidableEq

namespace Language

def dialect : Language → Dialect
  | .typeScript => TypeScript.dialect
  | .dart => Dart.dialect
  | .kotlin => Kotlin.dialect

/-- This function writes the declared type of a field. Only TypeScript marks the name instead. -/
def fieldType (language : Language) (known : NameSet) (field : Field) : String :=
  let type := field.shape.resolve known
  match language with
  | .typeScript => TypeScript.dialect.type type
  | .dart => Dart.nullableType type field.nullable
  | .kotlin => Kotlin.nullableType type field.nullable

/-- This function writes what a field starts with when no constructor sets it. -/
def initialText? (language : Language) (known : NameSet) (field : Field) : Option String :=
  let type := field.shape.resolve known
  match language with
  | .typeScript => (TypeScript.initializer? type field).map TypeScript.dialect.initializer
  | .dart => (Dart.initializer? type field).map Dart.dialect.initializer
  | .kotlin => some (Kotlin.initialValue type field).text

/-- This function writes the file of a model set. -/
def emit (language : Language) (settings : Settings) (set : ModelSet) : Emission :=
  match language with
  | .typeScript =>
      let file := TypeScript.file settings set
      ⟨file.text, TypeScript.fileName set.root.name, file.imports⟩
  | .dart => ⟨(Dart.file settings set).text, Dart.fileName set.root.name, []⟩
  | .kotlin =>
      let file := Kotlin.file settings set
      ⟨file.text, Kotlin.fileName set.root.name, file.imports⟩

end Language

end Exemplar
