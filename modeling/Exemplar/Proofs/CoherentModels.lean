import Exemplar.Proofs.ExtractedModels

namespace Exemplar

namespace Shape

theorem isList_iff {shape : Shape} : shape.isList = true ↔ ∃ item, shape = .list item := by
  cases shape <;> simp [isList]

theorem isReference_iff {shape : Shape} :
    shape.isReference = true ↔ ∃ model, shape = .reference model := by
  cases shape <;> simp [isReference]

/-- An object always has a name. -/
theorem referenceName_ne_empty (members : List (String × Json)) : referenceName members ≠ "" := by
  rcases referenceName_cases members with unnamed | ⟨_, _, named, ofKey⟩
  · rw [unnamed]
    decide
  · rwa [ofKey]

end Shape

/-- A field is coherent when it is named by its key, its marks tell its type, and it is nullable if
its type is unknown or null safety asks for it. -/
structure Field.Coherent (nullSafety : Bool) (field : Field) : Prop where
  named : field.name = Naming.camelCase field.key
  list : field.isList = true ↔ ∃ item, field.shape = .list item
  reference : field.isReference = true ↔ ∃ model, field.shape = .reference model
  unknown : field.shape = .dynamic → field.nullable = true
  safe : nullSafety = true → field.nullable = true

/-- A field is marked when its marks are those of its shape. -/
structure Field.Marked (field : Field) : Prop where
  list : field.isList = field.shape.isList
  reference : field.isReference = field.shape.isReference

/-- A model is marked when all of its fields are. -/
def Model.Marked (model : Model) : Prop :=
  ∀ field ∈ model.fields, field.Marked

/-- A model is coherent when it has a name, distinct keys and coherent fields. -/
structure Model.Coherent (nullSafety : Bool) (model : Model) : Prop where
  named : model.name ≠ ""
  keys : model.keys.Nodup
  fields : ∀ field ∈ model.fields, field.Coherent nullSafety

namespace Field

variable {nullSafety : Bool}

theorem Coherent.marked {field : Field} (coherent : field.Coherent nullSafety) : field.Marked where
  list := Bool.eq_iff_iff.mpr (coherent.list.trans Shape.isList_iff.symm)
  reference := Bool.eq_iff_iff.mpr (coherent.reference.trans Shape.isReference_iff.symm)

/-- The field of a member is coherent. -/
theorem coherent_ofMember (nullSafety : Bool) (member : String × Json) :
    (ofMember nullSafety member).Coherent nullSafety where
  named := rfl
  list := Shape.isList_iff
  reference := Shape.isReference_iff
  unknown unknown := by
    have null : member.2 = .null := Shape.infer_eq_dynamic_iff.mp unknown
    simp [ofMember, null]
  safe safety := by
    simp only [ofMember, safety]
    split <;> rfl

/-- A coherent field stays coherent when it becomes nullable. -/
theorem Coherent.admitNull {field : Field} (coherent : field.Coherent nullSafety) :
    { field with nullable := true }.Coherent nullSafety where
  named := coherent.named
  list := coherent.list
  reference := coherent.reference
  unknown _ := rfl
  safe _ := rfl

/-- A field of unknown type stays coherent when it takes the type and the marks of a coherent
one. -/
theorem Coherent.takeShape {field seen : Field} (coherent : field.Coherent nullSafety)
    (unknown : field.shape = .dynamic) (seenCoherent : seen.Coherent nullSafety) :
    { field with
      shape := seen.shape
      isList := seen.isList
      isReference := seen.isReference }.Coherent nullSafety where
  named := coherent.named
  list := seenCoherent.list
  reference := seenCoherent.reference
  unknown _ := coherent.unknown unknown
  safe := coherent.safe

end Field

namespace Model

variable {nullSafety : Bool}

@[simp] theorem key_mergeField (other : Model) (field : Field) :
    (mergeField other field).key = field.key := by
  unfold mergeField
  split
  · rfl
  · split <;> rfl

/-- A field stays coherent when another sample is merged into it. -/
theorem coherent_mergeField {other : Model} {field : Field} (coherent : field.Coherent nullSafety)
    (otherCoherent : ∀ seen ∈ other.fields, seen.Coherent nullSafety) :
    (mergeField other field).Coherent nullSafety := by
  unfold mergeField
  split
  · exact coherent.admitNull
  next seen found =>
    split
    next taken =>
      have listed : seen ∈ other.fields := List.mem_of_find?_eq_some found
      exact coherent.takeShape taken.1 (otherCoherent seen listed)
    · exact coherent

/-- Merging keeps the fields of both models coherent. -/
theorem coherent_fields_merge {model other : Model}
    (coherent : ∀ field ∈ model.fields, field.Coherent nullSafety)
    (otherCoherent : ∀ field ∈ other.fields, field.Coherent nullSafety) :
    ∀ field ∈ (model.merge other).fields, field.Coherent nullSafety := by
  intro field present
  rcases List.mem_append.mp present with known | new
  · obtain ⟨earlier, member, rfl⟩ := List.mem_map.mp known
    exact coherent_mergeField (coherent earlier member) otherCoherent
  · obtain ⟨added, member, rfl⟩ := List.mem_map.mp new
    exact (otherCoherent added (List.mem_filter.mp member).1).admitNull

theorem coherent_fields_ofMembers (nullSafety : Bool) (name : String)
    (members : List (String × Json)) :
    ∀ field ∈ (ofMembers nullSafety name members).fields, field.Coherent nullSafety := by
  intro field present
  obtain ⟨member, _, rfl⟩ := List.mem_map.mp present
  exact Field.coherent_ofMember nullSafety member

/-- A merged model has the known keys and then the new ones of the other sample. -/
theorem keys_merge (model other : Model) :
    (model.merge other).keys = model.keys ++ other.keys.filter fun key => key ∉ model.keys := by
  have isNew (field : Field) :
      (model.field? field.key).isNone = decide (field.key ∉ model.keys) := by
    rw [Bool.eq_iff_iff]
    simp [field?, keys]
  simp only [keys, merge, List.map_append, List.map_map, List.filter_map, Function.comp_def,
    key_mergeField, isNew]

/-- Merging two coherent models gives a coherent model. -/
theorem Coherent.merge {model other : Model} (coherent : model.Coherent nullSafety)
    (otherCoherent : other.Coherent nullSafety) : (model.merge other).Coherent nullSafety where
  named := coherent.named
  keys := by
    rw [keys_merge]
    refine List.nodup_append.mpr ⟨coherent.keys, otherCoherent.keys.filter _, ?_⟩
    rintro key known _ new rfl
    exact of_decide_eq_true (List.mem_filter.mp new).2 known
  fields := coherent_fields_merge coherent.fields otherCoherent.fields

/-- A model that is read off one object is coherent. -/
theorem coherent_ofMembers (nullSafety : Bool) {name : String} {members : List (String × Json)}
    (named : name ≠ "") (distinct : (Json.keys members).Nodup) :
    (ofMembers nullSafety name members).Coherent nullSafety where
  named := named
  keys := by
    have keys : (ofMembers nullSafety name members).keys = Json.keys members := by
      simp [Model.keys, ofMembers, Field.ofMember, Json.keys, Function.comp_def]
    rwa [keys]
  fields := coherent_fields_ofMembers nullSafety name members

end Model

namespace Extraction

variable {nullSafety : Bool}

/-- The root model always has a name. -/
theorem rootName_ne_empty (given : String) : rootName given ≠ "" := by
  rcases rootName_cases given with unnamed | ⟨named, ofGiven⟩
  · rw [unnamed]
    decide
  · rwa [ofGiven]

/-- All fields of extracted models are coherent, even those of a document that repeats keys. -/
theorem coherent_fields_ofMembers {name : String} {members : List (String × Json)} :
    ∀ model ∈ (ofMembers nullSafety name members).models.models,
      ∀ field ∈ model.fields, field.Coherent nullSafety := by
  apply @invariant_ofMembers nullSafety
    fun model => ∀ field ∈ model.fields, field.Coherent nullSafety
  · exact fun _ _ => Model.coherent_fields_merge
  · exact Model.coherent_fields_ofMembers nullSafety name members
  · exact fun sample _ => Model.coherent_fields_ofMembers nullSafety _ sample.members

theorem marked_ofMembers {name : String} {members : List (String × Json)} :
    ∀ model ∈ (ofMembers nullSafety name members).models.models, model.Marked :=
  fun model listed field present => (coherent_fields_ofMembers model listed field present).marked

/-- A run over the samples keeps all models coherent. -/
theorem coherent_foldl {extraction : Extraction} {samples : List Sample}
    (coherent : ∀ model ∈ extraction.models.models, model.Coherent nullSafety)
    (distinct : ∀ sample ∈ samples, (Json.keys sample.members).Nodup) :
    ∀ model ∈ (samples.foldl (addSample nullSafety) extraction).models.models,
      model.Coherent nullSafety := by
  refine invariant_foldl (fun _ _ => Model.Coherent.merge) coherent fun sample sampled => ?_
  exact Model.coherent_ofMembers nullSafety (Shape.referenceName_ne_empty _)
    (distinct sample sampled)

/-- Every model of a well-formed document is coherent. -/
theorem models_coherent {document : Json} {members : List (String × Json)}
    (wellFormed : document.WellFormed) (root : document.heldObject? = some members)
    (nullSafety : Bool) (given : String) :
    ∃ extraction, ofDocument nullSafety given document = .ok extraction ∧
      ∀ model ∈ extraction.models.models, model.Coherent nullSafety := by
  have objectFormed := wellFormed.object_held root
  refine ⟨_, ofDocument_eq_ok_iff.mpr ⟨members, root, rfl⟩, ?_⟩
  refine coherent_foldl ?_ fun _ sampled => distinct_samples objectFormed sampled
  intro model member
  rw [List.mem_singleton.mp member]
  exact Model.coherent_ofMembers nullSafety (rootName_ne_empty given) objectFormed.distinct

/-- In this document three samples of one model are merged: a type shows only in the second one, a
key is missing from the second one, and the last one has a key of its own. -/
def threeStays : List (String × Json) :=
  [("first", .object [("room_no", .integer 12), ("guest", .null), ("notes", .array [])]),
   ("second", .array [.object [("room_no", .integer 7), ("guest", .object [("id", .integer 1)])]]),
   ("third", .object [("room_no", .null), ("guest", .null), ("notes", .null), ("rate", .null)]),
   ("", .object [("", .boolean true)])]

/-- All models of the document are coherent. -/
theorem threeStays_coherent :
    (Json.object threeStays).WellFormed ∧
      (Json.object threeStays).heldObject? = some threeStays ∧
      ∃ extraction, ofDocument false "" (.object threeStays) = .ok extraction ∧
        ∀ model ∈ extraction.models.models, model.Coherent false := by
  have wellFormed : (Json.object threeStays).WellFormed := by decide
  exact ⟨wellFormed, rfl, models_coherent wellFormed rfl false ""⟩

end Extraction

end Exemplar
