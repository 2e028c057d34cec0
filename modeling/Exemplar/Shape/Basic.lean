namespace Exemplar

/-- These are the primitive types. -/
inductive Primitive where
  | string
  | integer
  | float
  | boolean
  deriving DecidableEq

/-- This function names a primitive type. -/
def Primitive.name : Primitive → String
  | .string => "string"
  | .integer => "integer"
  | .float => "float"
  | .boolean => "boolean"

def Primitive.all : List Primitive :=
  [.string, .integer, .float, .boolean]

def Primitive.ofName? (name : String) : Option Primitive :=
  Primitive.all.find? fun primitive => primitive.name == name

/-- A dynamic shape stands for a value that tells nothing, and a reference names a model. -/
inductive Shape where
  | primitive (type : Primitive)
  | dynamic
  | list (item : Shape)
  | reference (model : String)
  deriving DecidableEq

namespace Shape

/-- The name of a shape is that of its primitive type or of its model. -/
def name : Shape → String
  | .primitive type => type.name
  | .reference model => model
  | _ => ""

def item? : Shape → Option Shape
  | .list item => some item
  | _ => none

theorem item?_eq_some_iff {shape item : Shape} : shape.item? = some item ↔ shape = .list item := by
  cases shape <;> simp [item?]

theorem sizeOf_item {shape item : Shape} (found : shape.item? = some item) :
    sizeOf item < sizeOf shape := by
  rw [item?_eq_some_iff.mp found, list.sizeOf_spec]
  omega

def isPrimitive : Shape → Bool
  | .primitive _ => true
  | _ => false

def isList : Shape → Bool
  | .list _ => true
  | _ => false

def isReference : Shape → Bool
  | .reference _ => true
  | _ => false

def isListOfReferences (shape : Shape) : Bool :=
  match shape.item? with
  | some item => item.isReference
  | none => false

@[simp] theorem isListOfReferences_list (item : Shape) :
    (list item).isListOfReferences = item.isReference := rfl

/-- This function describes a shape. -/
def text : Shape → String
  | .primitive type => type.name
  | .dynamic => "dynamic"
  | .list item => "array<" ++ item.text ++ ">"
  | .reference model => "ref<" ++ model ++ ">"

end Shape

end Exemplar
