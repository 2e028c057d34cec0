import Exemplar.FileName
import Exemplar.Options
import Exemplar.Source.TypeScript

namespace Exemplar.TypeScript

/-- Only this style decorates properties. A model without a name cannot be named in a decorator. -/
def decorators (style : Option Style) (type : FieldType) (field : Field) : List Decorator :=
  if style = some .classTransformer then
    (match type.heldModel? with
      | some model => if model = "" then [] else [.type model]
      | none => []) ++
      (if field.isRenamed then [.expose field.key] else [])
  else
    []

/-- A nullable field needs no initial value. -/
def initializer? (type : FieldType) (field : Field) : Option Initializer :=
  if field.nullable then none else type.initializer?

/-- A property is initialized in place when neither a constructor nor an implementation of the
interface sets it. -/
def property (settings : Settings) (known : NameSet) (field : Field) : Property :=
  let type := field.shape.resolve known
  { decorators := decorators settings.style type field
    name := field.name
    optional := field.nullable
    type := type
    initializer :=
      if settings.constructors ∨ settings.style = some .typeOnly then none
      else initializer? type field }

/-- The parameter of a nullable field is optional when the fields after it are nullable as well. -/
def parameters (known : NameSet) : List Field → List Parameter
  | [] => []
  | field :: later =>
      { name := field.name
        presence :=
          if !field.nullable then .required
          else if later.all Field.nullable then .optional
          else .undefinable
        type := field.shape.resolve known } :: parameters known later

def form (settings : Settings) (known : NameSet) (model : Model) : Form :=
  if settings.style = some .typeOnly then .interface
  else if settings.constructors then .constructedClass (parameters known model.fields)
  else .plainClass

def declaration (settings : Settings) (known : NameSet) (model : Model) : Declaration where
  form := form settings known model
  name := model.name
  properties := model.fields.map (property settings known)

def file (settings : Settings) (set : ModelSet) : File where
  declarations := set.models.map (declaration settings set.names)

end Exemplar.TypeScript
