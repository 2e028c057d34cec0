import Exemplar.FileName
import Exemplar.Options
import Exemplar.Source.Kotlin

namespace Exemplar.Kotlin

/-- A nullable property starts with null, and any object stands for a value that tells nothing. -/
def initialValue (type : FieldType) (field : Field) : InitialValue :=
  if field.nullable then .null
  else
    match type.initializer? with
    | some initializer => .natural initializer
    | none => .anyObject

/-- This function returns the key marker of a style. -/
def keyMarker? : Style → Option KeyMarker
  | .kotlinxSerialization => some .serialName
  | .jackson => some .jsonProperty
  | .gson => some .serializedName
  | _ => none

/-- Only a renamed property has a marker. -/
def marker? (style : Option Style) (field : Field) : Option Marker :=
  if field.isRenamed then
    (style.bind keyMarker?).map fun kind => ⟨kind, field.key⟩
  else
    none

/-- A parameter has an initial value when it is nullable, and a property of a plain class always has
one. -/
def property (settings : Settings) (known : NameSet) (field : Field) : Property :=
  let type := field.shape.resolve known
  { marker := marker? settings.style field
    name := field.name
    type := type
    nullable := field.nullable
    initialValue :=
      if settings.constructors ∧ ¬ field.nullable then none
      else some (initialValue type field) }

/-- This function declares a model. -/
def declare (settings : Settings) (known : NameSet) (model : Model) : Class where
  serializable := settings.style = some .kotlinxSerialization
  form := if settings.constructors then .data else .plain
  name := model.name
  properties := model.fields.map (property settings known)

def file (settings : Settings) (set : ModelSet) : File where
  package := settings.package
  classes := set.models.map (declare settings set.names)

end Exemplar.Kotlin
