import Exemplar.Model.Basic

namespace Exemplar

/-- The type of a generated field names only models that are generated too. -/
inductive FieldType where
  | primitive (type : Primitive)
  | dynamic
  | object
  | model (name : String)
  | list (item : FieldType)
  deriving DecidableEq

/-- This function gives a shape its type, when the known models are generated. -/
def Shape.resolve (known : NameSet) : Shape → FieldType
  | .primitive type => .primitive type
  | .dynamic => .dynamic
  | .list item => .list (item.resolve known)
  | .reference model => if model ∈ known then .model model else .object

namespace FieldType

def directModel? : FieldType → Option String
  | .model name => some name
  | _ => none

/-- This function returns the model that a field holds directly or as list items. -/
def heldModel? : FieldType → Option String
  | .model name => some name
  | .list item => item.directModel?
  | _ => none

end FieldType

end Exemplar
