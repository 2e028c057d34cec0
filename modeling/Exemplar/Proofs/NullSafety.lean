import Exemplar.Proofs.SampleLookups

/-
Null safety. Extracting with null safety gives what extracting without it gives after every field is
made nullable: the models, the fields, their types and the notices are the same. Reading a field,
merging a sample and taking a step each commute with making fields nullable, so a whole run does.
-/

namespace Exemplar

def Field.withNull (field : Field) : Field :=
  { field with nullable := true }

def Model.withNulls (model : Model) : Model :=
  { model with fields := model.fields.map Field.withNull }

def ModelSet.withNulls (set : ModelSet) : ModelSet where
  nested := set.nested.map Model.withNulls
  root := set.root.withNulls

/-- This function makes every field of an extraction nullable and keeps the notices. -/
def Extraction.withNulls (extraction : Extraction) : Extraction :=
  { extraction with models := extraction.models.withNulls }

theorem Field.ofMember_nullSafe (member : String × Json) :
    ofMember true member = (ofMember false member).withNull := by
  obtain ⟨key, value⟩ := member
  cases value <;> rfl

namespace Model

/-- With null safety an object is read as a model of nullable fields. -/
theorem ofMembers_nullSafe (name : String) (members : List (String × Json)) :
    ofMembers true name members = (ofMembers false name members).withNulls := by
  have fields : members.map (Field.ofMember true) =
      (members.map (Field.ofMember false)).map Field.withNull := by
    rw [List.map_map]
    exact List.map_congr_left fun member _ => Field.ofMember_nullSafe member
  rw [ofMembers, fields]
  rfl

theorem fields_withNulls (model : Model) :
    model.withNulls.fields = model.fields.map Field.withNull := rfl

theorem field?_withNulls (model : Model) (key : String) :
    model.withNulls.field? key = (model.field? key).map Field.withNull := by
  rw [field?, fields_withNulls, List.find?_map]
  rfl

/-- A field takes up the same from another sample when both are made nullable. -/
theorem mergeField_withNulls (other : Model) (field : Field) :
    mergeField other.withNulls field.withNull = (mergeField other field).withNull := by
  have sameKey : field.withNull.key = field.key := rfl
  have sameShape : field.withNull.shape = field.shape := rfl
  rw [mergeField, mergeField, sameKey, sameShape, field?_withNulls]
  cases other.field? field.key with
  | none => rfl
  | some seen =>
      have seenShape : seen.withNull.shape = seen.shape := rfl
      simp only [Option.map_some, seenShape]
      split <;> rfl

/-- Merging commutes with making fields nullable. -/
theorem merge_withNulls (model other : Model) :
    model.withNulls.merge other.withNulls = (model.merge other).withNulls := by
  have isNew (field : Field) :
      (model.withNulls.field? field.withNull.key).isNone = (model.field? field.key).isNone := by
    rw [field?_withNulls, Option.isNone_map]
    rfl
  have known : model.withNulls.fields.map (mergeField other.withNulls) =
      (model.fields.map (mergeField other)).map Field.withNull := by
    rw [fields_withNulls, List.map_map, List.map_map]
    exact List.map_congr_left fun field _ => mergeField_withNulls other field
  have new : other.withNulls.fields.filter
        (fun field => (model.withNulls.field? field.key).isNone) =
      (other.fields.filter fun field => (model.field? field.key).isNone).map Field.withNull := by
    rw [fields_withNulls, List.filter_map]
    simp only [Function.comp_def, isNew]
  rw [merge, known, new, merge]
  simp only [withNulls, List.map_append, List.map_map]
  rfl

end Model

namespace Extraction

/-- One step commutes with making fields nullable. -/
theorem addSample_withNulls (extraction : Extraction) (sample : Sample) :
    addSample true extraction.withNulls sample = (addSample false extraction sample).withNulls := by
  have isKnown : (extraction.withNulls.models.nested.any fun known =>
        known.name == sample.modelName) =
      extraction.models.nested.any fun known => known.name == sample.modelName := by
    simp only [withNulls, ModelSet.withNulls, List.any_map]
    rfl
  unfold addSample add
  simp only [isKnown, Model.ofMembers_nullSafe]
  split
  · -- The sample is merged into the models of its name.
    simp only [withNulls, ModelSet.withNulls, List.map_map, Function.comp_def]
    congr 2
    apply List.map_congr_left
    intro model _
    have sameName : model.withNulls.name = model.name := rfl
    rw [sameName]
    split
    · exact Model.merge_withNulls model _
    · rfl
  · -- The sample gives a model of its own.
    simp only [withNulls, ModelSet.withNulls, List.map_append]
    rfl

/-- A run over the samples commutes with making fields nullable. -/
theorem foldl_withNulls (extraction : Extraction) (samples : List Sample) :
    samples.foldl (addSample true) extraction.withNulls =
      (samples.foldl (addSample false) extraction).withNulls :=
  List.foldl_hom withNulls fun extraction sample => addSample_withNulls extraction sample

/-- The conclusion of an extraction commutes with making fields nullable. -/
theorem conclude_withNulls (extraction : Extraction) :
    extraction.withNulls.conclude = extraction.conclude.withNulls := by
  simp [conclude, withNulls, ModelSet.withNulls, Model.withNulls]

/-- The extraction from the members of a document differs with null safety in the nullable fields
only. -/
theorem ofMembers_nullSafe (name : String) (members : List (String × Json)) :
    ofMembers true name members = (ofMembers false name members).withNulls := by
  have started : start true name members = (start false name members).withNulls := by
    rw [start, Model.ofMembers_nullSafe]
    rfl
  rw [ofMembers, started, foldl_withNulls, conclude_withNulls]
  rfl

/-- With null safety the same documents are refused for the same reasons, and any other document
gives the same extraction but for nullable fields. -/
theorem ofDocument_nullSafe (given : String) (document : Json) :
    ofDocument true given document = (ofDocument false given document).map withNulls := by
  rw [ofDocument_eq, ofDocument_eq]
  cases rootMembers document with
  | error error => rfl
  | ok members => exact congrArg Except.ok (ofMembers_nullSafe (rootName given) members)

example :
    (ofMembers true "Model" [("id", .integer 1), ("home", .object [("zip", .null)])]).models =
      ⟨[⟨"Zip", [⟨"zip", "zip", .dynamic, true, false, false⟩]⟩],
        ⟨"Model", [⟨"id", "id", .primitive .integer, true, false, false⟩,
          ⟨"home", "home", .reference "Zip", true, false, true⟩]⟩⟩ := by decide

end Extraction

end Exemplar
