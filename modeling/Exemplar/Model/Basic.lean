import Exemplar.Model.NameSet
import Exemplar.Shape.Basic

namespace Exemplar

/-- A field has a name in the generated code and a key in the document. Its marks are set along with
its shape. -/
structure Field where
  name : String
  key : String
  shape : Shape
  nullable : Bool
  isList : Bool
  isReference : Bool
  deriving DecidableEq

/-- A field is renamed when its name is not its key. -/
def Field.isRenamed (field : Field) : Bool :=
  field.name != field.key

/-- A model is a named list of fields. -/
structure Model where
  name : String
  fields : List Field
  deriving DecidableEq

def Model.keys (model : Model) : List String :=
  model.fields.map Field.key

/-- The nested models stand in the order in which they were found. -/
structure ModelSet where
  nested : List Model
  root : Model
  deriving DecidableEq

namespace ModelSet

/-- The root model follows the models that its fields refer to. -/
def models (set : ModelSet) : List Model :=
  set.nested ++ [set.root]

/-- This function returns the names of all models. -/
def names (set : ModelSet) : NameSet :=
  NameSet.ofList (set.models.map Model.name)

end ModelSet

end Exemplar
