import Exemplar.FileName
import Exemplar.Options
import Exemplar.Source.Dart

namespace Exemplar.Dart

/-- A nullable field needs no initial value. -/
def initializer? (type : FieldType) (field : Field) : Option Initializer :=
  if field.nullable then none else type.initializer?

/-- The fields of a class with a constructor are final, and the others may have initial values. -/
def property (settings : Settings) (known : NameSet) (field : Field) : Property :=
  let type := field.shape.resolve known
  { key :=
      if settings.style = some .jsonSerializable ∧ field.isRenamed then some field.key else none
    final := settings.constructors
    type := type
    nullable := field.nullable
    name := field.name
    initializer := if settings.constructors then none else initializer? type field }

/-- A parameter is required when neither its field nor its type admits null. -/
def parameter (field : Field) : Parameter where
  required := !field.nullable && field.shape != .dynamic
  name := field.name

/-- A class with a factory has no implicit constructor, so every style but the plain one declares a
constructor. -/
def constructor (settings : Settings) (model : Model) : Constructor :=
  if settings.constructors ∧ model.fields ≠ [] then .named (model.fields.map parameter)
  else if settings.constructors ∨ settings.style ≠ some .plain then .empty
  else .implicit

/-- Only numbers are converted when they are read. -/
def conversion? : Primitive → Option Conversion
  | .integer => some .toInt
  | .float => some .toDouble
  | _ => none

/-- The type of a field decides how it is read. Items are converted one by one when they are
numbers or models, and every other list is copied. -/
def read : FieldType → Read
  | .model name => .model name
  | .object => .cast .object
  | .dynamic => .asIs
  | .primitive type =>
      match conversion? type with
      | some conversion => .number conversion
      | none => .cast (.primitive type)
  | .list (.model name) => .models name
  | .list (.primitive type) =>
      match conversion? type with
      | some conversion => .numbers conversion
      | none => .copy (.list (.primitive type))
  | .list item => .copy (.list item)

/-- Only models are converted when they are written. -/
def write : FieldType → Write
  | .model _ => .model
  | .list (.model _) => .models
  | _ => .asIs

/-- This function converts a field under its key. -/
def entry (known : NameSet) (field : Field) : Entry :=
  let type := field.shape.resolve known
  { name := field.name
    key := field.key
    nullable := field.nullable
    read := read type
    write := write type }

/-- The style decides which routines a class has. -/
def routines (settings : Settings) (known : NameSet) (model : Model) : Routines :=
  if settings.style = some .jsonSerializable then .generated
  else if settings.style = some .fromJsonToJson then .written (model.fields.map (entry known))
  else .absent

/-- This function declares a model. -/
def declare (settings : Settings) (known : NameSet) (model : Model) : Class where
  annotated := settings.style = some .jsonSerializable
  name := model.name
  properties := model.fields.map (property settings known)
  constructor := constructor settings model
  routines := routines settings known model

def file (settings : Settings) (set : ModelSet) : File where
  part := if settings.style = some .jsonSerializable then some (fileName set.root.name) else none
  classes := set.models.map (declare settings set.names)

end Exemplar.Dart
