import Exemplar.Rendering.Dart
import Exemplar.Rendering.Kotlin
import Exemplar.Rendering.TypeScript

namespace Exemplar.Language

def renderer : Language → Renderer
  | .typeScript => Rendering.TypeScript.renderer
  | .dart => Rendering.Dart.renderer
  | .kotlin => Rendering.Kotlin.renderer

def vocabulary : Language → Vocabulary
  | .typeScript => Rendering.TypeScript.vocabulary
  | .dart => Rendering.Dart.vocabulary
  | .kotlin => Rendering.Kotlin.vocabulary

/-- This function writes the declared type of a field. Only TypeScript marks the name instead. -/
def renderedType (language : Language) (known : NameSet) (field : Field) : Except Error String :=
  match language with
  | .typeScript => Rendering.TypeScript.vocabulary.typeText known field.shape
  | .dart => Rendering.Dart.fieldType known field
  | .kotlin => Rendering.Kotlin.fieldType known field

/-- This function writes what a field starts with when no constructor sets it. -/
def renderedInitial? (language : Language) (known : NameSet) (field : Field) :
    Except Error (Option String) :=
  match language with
  | .typeScript => Rendering.TypeScript.initialText? known field
  | .dart => Rendering.Dart.initialText? known field
  | .kotlin => Rendering.Kotlin.initialText? known field

end Exemplar.Language
