import Exemplar.Language
import Exemplar.Naming

namespace Exemplar

/-- A TypeScript file ends in `Model`. -/
def TypeScript.fileName (root : String) : String :=
  if "Model".toList.isSuffixOf root.toList then root else root ++ "Model"

/-- A Dart file has a name in snake case. -/
def Dart.fileName (root : String) : String :=
  Naming.snakeCase root

/-- A Kotlin file has the name of its model. -/
def Kotlin.fileName (root : String) : String := root

/-- This function names the file of a root model, without its extension. -/
def Language.fileName (language : Language) (root : String) : String :=
  match language with
  | .typeScript => TypeScript.fileName root
  | .dart => Dart.fileName root
  | .kotlin => Kotlin.fileName root

end Exemplar
