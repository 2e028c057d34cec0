import Exemplar.Error
import Exemplar.Model.Sample
import Exemplar.Notice

/-
The extraction of a model set from a document. The root model has a field for every member of the
document, and every sample among the values of the members adds to a nested model. Objects inside a
sample add no models of their own.
-/

namespace Exemplar

/-- An extraction is a model set and what it took notice of. -/
structure Extraction where
  models : ModelSet
  notices : List Notice

namespace Extraction

/-- This is the name of a root model that is given no other. -/
def defaultRootName : String := "Model"

/-- This function returns the name of the root model. -/
def rootName (given : String) : String :=
  let name := Naming.pascalCase given
  if name = "" then defaultRootName else name

/-- A list stands for its first item, and only an object has members. -/
def rootMembers : Json → Except Error (List (String × Json))
  | .object members => .ok members
  | .array [] => .error .emptyArray
  | .array (.object members :: _) => .ok members
  | .array (first :: _) => .error (.notAnObject first)
  | document => .error (.notAnObject document)

/-- The first sample of a model adds the model, and a further one is merged into it. -/
def add (nullSafety : Bool) (name : String) (extraction : Extraction) (sample : Sample) :
    Extraction :=
  let model := Model.ofMembers nullSafety name sample.members
  let set := extraction.models
  if set.nested.any fun known => known.name == name then
    { models := { set with
        nested := set.nested.map fun known =>
          if known.name = name then known.merge model else known }
      notices := extraction.notices ++ [.merging name sample.key] }
  else
    { models := { set with nested := set.nested ++ [model] }
      notices := extraction.notices ++
        if name = set.root.name then [.sharesRootName name] else [] }

/-- A sample belongs to the model that its first key names. -/
def addSample (nullSafety : Bool) (extraction : Extraction) (sample : Sample) : Extraction :=
  add nullSafety sample.modelName extraction sample

/-- The shape of a field tells whether its value or the first item of it is a sample. -/
def sampleValue? (shape : Shape) (value : Json) : Except Error (Option Json) :=
  if shape.isReference then .ok (some value)
  else if shape.isListOfReferences then do .ok (some (← Lookup.item.found value.first?))
  else .ok none

/-- The sample of a field belongs to the model that its shape names, or that of its items. -/
def sampleModel (shape : Shape) : Except Error String :=
  if shape.isReference then .ok shape.name
  else do .ok (← Lookup.item.found shape.item?).name

/-- This function adds the sample of a field, if there is one. -/
def addField (nullSafety : Bool) (extraction : Extraction) (field : Field) (value : Json) :
    Except Error Extraction := do
  match ← sampleValue? field.shape value with
  | none => .ok extraction
  | some sample =>
      let model ← sampleModel field.shape
      let members ← Lookup.members.found sample.members?
      .ok (add nullSafety model extraction ⟨field.key, members⟩)

/-- Each field of the root finds its value under its key. A key occurs once in a document, so its
member is taken out. -/
def addFields (nullSafety : Bool) (extraction : Extraction) :
    List Field → List (String × Json) → Except Error Extraction
  | [], _ => .ok extraction
  | field :: later, members => do
      let (value, others) ← (Lookup.member field.key).found (Json.takeMember? field.key members)
      addFields nullSafety (← addField nullSafety extraction field value) later others

/-- This function starts an extraction with the root model alone. -/
def start (nullSafety : Bool) (name : String) (members : List (String × Json)) : Extraction where
  models := ⟨[], Model.ofMembers nullSafety name members⟩
  notices := []

/-- This function takes notice of the result of an extraction. -/
def conclude (extraction : Extraction) : Extraction :=
  let set := extraction.models
  { extraction with
    notices := extraction.notices ++
      [.extracted set.root.name set.root.fields.length set.nested.length] }

/-- This function extracts the models from a document. -/
def ofDocument (nullSafety : Bool) (name : String) (document : Json) : Except Error Extraction := do
  let members ← rootMembers document
  let started := start nullSafety (rootName name) members
  let filled ← addFields nullSafety started started.models.root.fields members
  .ok filled.conclude

end Extraction

end Exemplar
