import Exemplar.Source.FieldType

namespace Exemplar

/-- This is what a field without a constructor starts with. -/
inductive Initializer where
  | emptyList
  | emptyObject
  | fresh (model : String)
  | zero (type : Primitive)
  deriving DecidableEq

/-- Only a dynamic field has no natural initial value. -/
def FieldType.initializer? : FieldType → Option Initializer
  | .primitive type => some (.zero type)
  | .dynamic => none
  | .object => some .emptyObject
  | .model name => some (.fresh name)
  | .list _ => some .emptyList

/-- A dialect spells types and initial values. -/
structure Dialect where
  primitive : Primitive → String
  dynamic : String
  object : String
  list : String → String
  initializer : Initializer → String

/-- This function spells a type. -/
def Dialect.type (dialect : Dialect) : FieldType → String
  | .primitive type => dialect.primitive type
  | .dynamic => dialect.dynamic
  | .object => dialect.object
  | .model name => name
  | .list item => dialect.list (dialect.type item)

end Exemplar
