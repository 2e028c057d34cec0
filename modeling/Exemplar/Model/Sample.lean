import Exemplar.Model.Basic
import Exemplar.Shape.Inference

namespace Exemplar

/-- This function reads a field off one member. Null makes a field nullable in any case. -/
def Field.ofMember (nullSafety : Bool) (member : String × Json) : Field :=
  let shape := Shape.infer member.2
  { name := Naming.camelCase member.1
    key := member.1
    shape := shape
    nullable := match member.2 with
      | .null => true
      | _ => nullSafety
    isList := shape.isList
    isReference := shape.isReference }

namespace Model

def ofMembers (nullSafety : Bool) (name : String) (members : List (String × Json)) : Model where
  name := name
  fields := members.map (Field.ofMember nullSafety)

def field? (model : Model) (key : String) : Option Field :=
  model.fields.find? fun field => field.key == key

/-- A field that the other sample lacks becomes nullable. A field whose shape is still unknown takes
the shape that the other sample shows, and the marks with it. -/
def mergeField (other : Model) (field : Field) : Field :=
  match other.field? field.key with
  | none => { field with nullable := true }
  | some seen =>
      if field.shape = .dynamic ∧ seen.shape ≠ .dynamic then
        { field with
          shape := seen.shape
          isList := seen.isList
          isReference := seen.isReference }
      else
        field

/-- The fields that only the other sample has follow the known ones and are nullable. -/
def merge (model other : Model) : Model where
  name := model.name
  fields :=
    model.fields.map (mergeField other) ++
      (other.fields.filter fun field => (model.field? field.key).isNone).map fun field =>
        { field with nullable := true }

end Model

/-- A sample of a nested model is the value or the first item under a key of the root. -/
structure Sample where
  key : String
  members : List (String × Json)

namespace Sample

def modelName (sample : Sample) : String :=
  Shape.referenceName sample.members

end Sample

end Exemplar
