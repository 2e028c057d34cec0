import Exemplar.Json.Basic
import Exemplar.Naming
import Exemplar.Shape.Basic

namespace Exemplar.Shape

/-- This is the name of the model of an object without keys. -/
def emptyObjectName : String := "Object"

/-- The first key of an object names its model. -/
def referenceName : List (String × Json) → String
  | [] => emptyObjectName
  | (key, _) :: _ =>
      let name := Naming.pascalCase key
      if name = "" then emptyObjectName else name

/-- A number without a fractional part is an integer, and null tells nothing. -/
def infer : Json → Shape
  | .null => .dynamic
  | .boolean _ => .primitive .boolean
  | .integer _ => .primitive .integer
  | .float value => .primitive (if value.isIntegral then .integer else .float)
  | .string _ => .primitive .string
  | .array [] => .list .dynamic
  | .array (first :: _) => .list (infer first)
  | .object members => .reference (referenceName members)
  termination_by structural value => value

end Exemplar.Shape
