import Exemplar.Model.Basic
import Exemplar.Options
import Exemplar.Rendering.Template

/-
Renderings. A rendering writes the classes of a model set one after the other. On the way it
remembers the names of the models and what the file has to import, and what it remembers stays when
it fails.
-/

namespace Exemplar

/-- A rendering knows the models of its set and collects imports. -/
structure Memory where
  knownModels : NameSet
  imports : NameSet
  deriving DecidableEq

/-- A rendering may fail, but never forgets what it has done. -/
abbrev Rendering := ExceptT Error (StateM Memory)

namespace Rendering

/-- This function lets a rendering go on from a memory. -/
def perform {α : Type} (rendering : Rendering α) (memory : Memory) : Except Error α × Memory :=
  (rendering.run.run memory).run

/-- This rendering succeeds or fails without a change. -/
def attempt {α : Type} (result : Except Error α) : Rendering α :=
  ExceptT.mk (pure result)

/-- This rendering replaces what earlier ones have left. -/
def reset (names : NameSet) : Rendering Unit :=
  set (Memory.mk names [])

def knownModels : Rendering NameSet := do
  return (← get).knownModels

def imports : Rendering NameSet := do
  return (← get).imports

def addImport (name : String) : Rendering Unit :=
  modify fun memory => { memory with imports := NameSet.insert name memory.imports }

end Rendering

/-- This function returns the model that a shape refers to, if it is known. -/
def Shape.knownModel? (known : NameSet) (shape : Shape) : Option String :=
  if shape.isReference ∧ shape.name ∈ known then some shape.name else none

/-- This function returns the known model that a shape refers to directly or by its items. -/
def Shape.heldModel? (known : NameSet) (shape : Shape) : Option String :=
  match shape.knownModel? known with
  | some model => some model
  | none => shape.item?.bind (knownModel? known)

/-- A vocabulary spells types and initial values. Primitive types are found by their names, and
their initial values by their spellings. -/
structure Vocabulary where
  types : List (String × String)
  dynamic : String
  object : String
  list : String → String
  zeros : List (String × String)
  emptyObject : String
  emptyList : String
  fresh : String → String

namespace Vocabulary

/-- This function spells a type. A model that is not known is any object. -/
def typeText (vocabulary : Vocabulary) (known : NameSet) (shape : Shape) : Except Error String :=
  if shape.isPrimitive then
    (Lookup.entry shape.name).found (vocabulary.types.lookup shape.name)
  else if shape.isReference then
    .ok (if shape.name ∈ known then shape.name else vocabulary.object)
  else if shape.isList then
    match _ : shape.item? with
    | none => .error (.missing .item)
    | some item => do .ok (vocabulary.list (← vocabulary.typeText known item))
  else
    .ok vocabulary.dynamic
  termination_by shape
  decreasing_by exact Shape.sizeOf_item ‹_›

/-- This function spells what a field starts with that is not null. The marks of the field come
before its type. -/
def initialText? (vocabulary : Vocabulary) (known : NameSet) (field : Field) :
    Except Error (Option String) :=
  if field.isList then
    .ok (some vocabulary.emptyList)
  else
    match field.shape.knownModel? known with
    | some model => .ok (some (vocabulary.fresh model))
    | none =>
        if field.isReference then .ok (some vocabulary.emptyObject)
        else do .ok (vocabulary.zeros.lookup (← vocabulary.typeText known field.shape))

end Vocabulary

/-- A renderer writes each class by a template, and then the header of the file by another one. The
record of a field is the value that the templates know it by. -/
structure Renderer where
  record : Options → Field → Rendering Json
  classVariables : Options → NameSet → Model → Except Error Scope
  prepare : Options → Rendering Unit
  headerVariables : Options → ModelSet → Scope
  classTemplate : Template
  headerTemplate : Template

namespace Renderer

def classScope (options : Options) (model : Model) (records : List Json) : Scope :=
  [("name", .string model.name), ("fields", .array records),
   ("include_constructor", options.includeConstructor), ("style", options.serializationStyle)]

def headerScope (options : Options) (imports : NameSet) : Scope :=
  [("imports", .array (imports.map Json.string)), ("style", options.serializationStyle)]

/-- This rendering writes a class, without blanks at its end. -/
def writeClass (renderer : Renderer) (options : Options) (model : Model) : Rendering String := do
  let records ← model.fields.mapM (renderer.record options)
  let scope ← Rendering.attempt
    (renderer.classVariables options (← Rendering.knownModels) model)
  let text ← Rendering.attempt
    (renderer.classTemplate.text (scope ++ classScope options model records))
  return String.ofList (Unicode.trimEnd text.toList)

/-- This rendering writes the header of a file, without blanks at its ends. -/
def writeHeader (renderer : Renderer) (options : Options) (set : ModelSet) : Rendering String := do
  renderer.prepare options
  let scope := headerScope options (← Rendering.imports)
  let text ← Rendering.attempt
    (renderer.headerTemplate.text (renderer.headerVariables options set ++ scope))
  return String.ofList (Unicode.trim text.toList)

/-- This rendering writes a file with blank lines between its parts. The classes come first, because
they may add imports. -/
def write (renderer : Renderer) (options : Options) (set : ModelSet) : Rendering String := do
  Rendering.reset set.names
  let classes ← set.models.mapM (renderer.writeClass options)
  let header ← renderer.writeHeader options set
  return "\n\n".intercalate ((if header = "" then [] else [header]) ++ classes) ++ "\n"

end Renderer

end Exemplar
