import Exemplar.Proofs.ExtractedModels

namespace Exemplar

namespace Json

/-- This function lists the keys of the samples in the order of their first appearance and leaves
out the keys that were seen before. -/
def unseenKeys (seen : List String) : List (List (String × Json)) → List String
  | [] => []
  | sample :: later =>
      let new := (keys sample).filter fun key => key ∉ seen
      new ++ unseenKeys (seen ++ new) later

/-- This function returns the value that a sample holds under a key, unless it is null. -/
def known? (key : String) (sample : List (String × Json)) : Option Json :=
  match member? key sample with
  | some .null => none
  | shown => shown

/-- This function returns the first value under a key that is not null. -/
def firstKnown? (key : String) (samples : List (List (String × Json))) : Option Json :=
  samples.findSome? (known? key)

/-- The keys that were not seen before are those of some sample. -/
theorem mem_unseenKeys {key : String} {seen : List String} {samples : List (List (String × Json))} :
    key ∈ unseenKeys seen samples ↔ key ∉ seen ∧ ∃ sample ∈ samples, key ∈ keys sample := by
  induction samples generalizing seen with
  | nil => simp [unseenKeys]
  | cons sample later inductionHypothesis =>
      simp only [unseenKeys, List.mem_append, inductionHypothesis, List.mem_filter,
        decide_eq_true_eq, List.exists_mem_cons_iff]
      by_cases known : key ∈ keys sample <;> simp [known]

/-- No key is listed twice. -/
theorem nodup_unseenKeys {seen : List String} {samples : List (List (String × Json))}
    (distinct : ∀ sample ∈ samples, (keys sample).Nodup) : (unseenKeys seen samples).Nodup := by
  induction samples generalizing seen with
  | nil => exact List.nodup_nil
  | cons sample later inductionHypothesis =>
      refine List.nodup_append.mpr ⟨(distinct sample List.mem_cons_self).filter _,
        inductionHypothesis fun other member => distinct other (List.mem_cons_of_mem _ member), ?_⟩
      -- The later keys are those that the keys of this sample do not precede.
      rintro key new _ later rfl
      exact (mem_unseenKeys.mp later).1 (List.mem_append_right _ new)

/-- Listing the unseen keys sample by sample keeps the first occurrence of each key. -/
theorem unseenKeys_eq_eraseDups {seen : List String} {samples : List (List (String × Json))}
    (distinct : ∀ sample ∈ samples, (keys sample).Nodup) :
    unseenKeys seen samples =
      ((samples.flatMap keys).filter fun key => key ∉ seen).eraseDups := by
  induction samples generalizing seen with
  | nil => rfl
  | cons sample later inductionHypothesis =>
      have new : ((keys sample).filter fun key => key ∉ seen).Nodup :=
        (distinct sample List.mem_cons_self).filter _
      rw [unseenKeys, inductionHypothesis fun other member =>
          distinct other (List.mem_cons_of_mem _ member),
        List.flatMap_cons, List.filter_append, List.eraseDups_append, eraseDups_of_nodup new,
        List.removeAll, List.filter_filter]
      congr 2
      apply List.filter_congr
      intro key _
      by_cases earlier : key ∈ seen <;> simp [earlier]

/-- What the samples show decides the shape as their first value that is not null does. -/
theorem shapeOfShown_eq_firstKnown? (key : String) (samples : List (List (String × Json))) :
    Field.shapeOfShown (shown key samples) =
      ((firstKnown? key samples).map Shape.infer).getD .dynamic := by
  induction samples with
  | nil => rfl
  | cons sample later inductionHypothesis =>
      simp only [shown, List.map_cons, firstKnown?, List.findSome?_cons, known?]
      cases member? key sample with
      | none => exact inductionHypothesis
      | some value =>
          cases value with
          | null => exact inductionHypothesis
          | _ => rfl

end Json

theorem Shape.isList_infer_iff {value : Json} :
    (infer value).isList = true ↔ ∃ items, value = .array items := by
  cases value with
  | array items => cases items <;> simp [infer, isList]
  | _ => simp [infer, isList]

theorem Shape.isReference_infer_iff {value : Json} :
    (infer value).isReference = true ↔ ∃ members, value = .object members := by
  cases value with
  | array items => cases items <;> simp [infer, isReference]
  | _ => simp [infer, isReference]

namespace Model

/-- A model is the union of samples when its keys are theirs in the order of first appearance and
each field follows the samples: the first value that is not null decides its shape and its marks, a
missing key makes it nullable, and a value in every sample makes it required unless all fields are
nullable. -/
structure IsUnion (nullSafety : Bool) (model : Model) (samples : List (List (String × Json))) :
    Prop where
  keys : model.keys = Json.unseenKeys [] samples
  distinct : model.keys.Nodup
  shape : ∀ field ∈ model.fields,
    field.shape = ((Json.firstKnown? field.key samples).map Shape.infer).getD .dynamic
  list : ∀ field ∈ model.fields,
    field.isList = true ↔ ∃ items, Json.firstKnown? field.key samples = some (.array items)
  reference : ∀ field ∈ model.fields,
    field.isReference = true ↔
      ∃ members, Json.firstKnown? field.key samples = some (.object members)
  nullable : ∀ field ∈ model.fields,
    (∃ sample ∈ samples, field.key ∉ Json.keys sample) → field.nullable = true
  required : nullSafety = false → ∀ field ∈ model.fields,
    (∀ sample ∈ samples, ∃ value, (field.key, value) ∈ sample ∧ value ≠ .null) →
      field.nullable = false

/-- The keys of a merged model are those of its samples in the order of their first appearance. -/
theorem keys_ofSamples (nullSafety : Bool) (name : String) {samples : List (List (String × Json))}
    (distinct : ∀ sample ∈ samples, (Json.keys sample).Nodup) :
    (ofSamples nullSafety name samples).keys = Json.unseenKeys [] samples := by
  rw [Json.unseenKeys_eq_eraseDups distinct]
  simp [keys, ofSamples, Field.ofShown, Function.comp_def]

/-- The shape of a field of a merged model follows from the first value that is not null. -/
theorem shape_ofSamples {nullSafety : Bool} {name : String} {samples : List (List (String × Json))}
    {field : Field} (present : field ∈ (ofSamples nullSafety name samples).fields) :
    field.shape = ((Json.firstKnown? field.key samples).map Shape.infer).getD .dynamic := by
  obtain ⟨key, _, rfl⟩ := mem_fields_ofSamples.mp present
  exact Json.shapeOfShown_eq_firstKnown? key samples

/-- The marks of a field of a merged model are those of its shape. -/
theorem marks_ofSamples {nullSafety : Bool} {name : String} {samples : List (List (String × Json))}
    {field : Field} (present : field ∈ (ofSamples nullSafety name samples).fields) :
    field.isList = field.shape.isList ∧ field.isReference = field.shape.isReference := by
  obtain ⟨key, _, rfl⟩ := mem_fields_ofSamples.mp present
  exact ⟨rfl, rfl⟩

/-- A field of a merged model is required when every sample holds a value under its key. -/
theorem nullable_ofSamples_eq_false {name : String} {samples : List (List (String × Json))}
    (distinct : ∀ sample ∈ samples, (Json.keys sample).Nodup) {field : Field}
    (present : field ∈ (ofSamples false name samples).fields)
    (held : ∀ sample ∈ samples, ∃ value, (field.key, value) ∈ sample ∧ value ≠ .null) :
    field.nullable = false := by
  cases samples with
  | nil => simp [ofSamples] at present
  | cons first later =>
      have firstDistinct := distinct first List.mem_cons_self
      rw [← Bool.not_eq_true, nullable_ofSamples_iff firstDistinct present]
      rintro (safety | ⟨sample, sampled, lacks⟩ | null)
      · exact Bool.false_ne_true safety
      · obtain ⟨value, member, _⟩ := held sample sampled
        exact lacks (List.mem_map_of_mem member)
      · obtain ⟨value, member, notNull⟩ := held first List.mem_cons_self
        have same := (Json.member?_of_mem firstDistinct member).symm.trans
          (Json.member?_of_mem firstDistinct null)
        exact notNull (Option.some.inj same)

/-- The model that samples are merged into is their union. -/
theorem isUnion_ofSamples (nullSafety : Bool) (name : String)
    {samples : List (List (String × Json))}
    (distinct : ∀ sample ∈ samples, (Json.keys sample).Nodup) :
    (ofSamples nullSafety name samples).IsUnion nullSafety samples where
  keys := keys_ofSamples nullSafety name distinct
  distinct := keys_ofSamples nullSafety name distinct ▸ Json.nodup_unseenKeys distinct
  shape _ present := shape_ofSamples present
  list field present := by
    rw [(marks_ofSamples present).1, shape_ofSamples present]
    cases Json.firstKnown? field.key samples with
    | none => simp [Shape.isList]
    | some value => simpa using Shape.isList_infer_iff
  reference field present := by
    rw [(marks_ofSamples present).2, shape_ofSamples present]
    cases Json.firstKnown? field.key samples with
    | none => simp [Shape.isReference]
    | some value => simpa using Shape.isReference_infer_iff
  nullable field present missing := by
    cases samples with
    | nil => simp [ofSamples] at present
    | cons first later =>
        exact (nullable_ofSamples_iff (distinct first List.mem_cons_self) present).mpr
          (.inr (.inl missing))
  required safetyOff field present held := by
    subst safetyOff
    exact nullable_ofSamples_eq_false distinct present held

end Model

namespace Extraction

/-- There is a nested model for exactly the names that have samples, and it is their union. -/
theorem nested_isUnion {document : Json} {members : List (String × Json)}
    (wellFormed : document.WellFormed) (root : document.heldObject? = some members)
    (nullSafety : Bool) (given : String) :
    ∃ extraction, ofDocument nullSafety given document = .ok extraction ∧
      (∀ name, (∃ model ∈ extraction.models.nested, model.name = name) ↔
        Json.samplesNamed name members ≠ []) ∧
      ∀ model ∈ extraction.models.nested,
        model.IsUnion nullSafety (Json.samplesNamed model.name members) := by
  have objectFormed := wellFormed.object_held root
  refine ⟨_, ofDocument_eq_ok_iff.mpr ⟨members, root, rfl⟩, ?_, ?_⟩
  · intro name
    simp only [mem_nested_ofMembers objectFormed]
    constructor
    · rintro ⟨_, ⟨_, sampled, rfl⟩, rfl⟩
      exact sampled
    · intro sampled
      exact ⟨_, ⟨name, sampled, rfl⟩, rfl⟩
  · intro model nested
    obtain ⟨name, sampled, rfl⟩ := (mem_nested_ofMembers objectFormed).mp nested
    have readOff : Json.ReadOff (rootName given) members name _ := .nested sampled
    exact Model.isUnion_ofSamples nullSafety name (readOff.distinct objectFormed)

/-- In this document three samples of one model differ in their keys, and the type under one key is
first shown by the last of them. -/
def threeVisits : List (String × Json) :=
  [("first", .object [("id", .integer 1), ("guide", .null), ("day", .string "Mon")]),
   ("second", .array [.object [("id", .integer 2), ("fee", .integer 9), ("guide", .null)],
     .boolean true]),
   ("third", .object [("id", .integer 3), ("guide", .object [("name", .string "Ada")]),
     ("fee", .null), ("note", .array [])])]

/-- The three samples are united in one model. -/
theorem threeVisits_isUnion :
    (Json.object threeVisits).WellFormed ∧
      (Json.object threeVisits).heldObject? = some threeVisits ∧
      ∃ extraction, ofDocument false "Model" (.object threeVisits) = .ok extraction ∧
        (∀ name, (∃ model ∈ extraction.models.nested, model.name = name) ↔
          Json.samplesNamed name threeVisits ≠ []) ∧
        ∀ model ∈ extraction.models.nested,
          model.IsUnion false (Json.samplesNamed model.name threeVisits) := by
  have wellFormed : (Json.object threeVisits).WellFormed := by decide
  exact ⟨wellFormed, rfl, nested_isUnion wellFormed rfl false "Model"⟩

example : (ofMembers false "Model" threeVisits).models.nested =
    [⟨"Id",
      [⟨"id", "id", .primitive .integer, false, false, false⟩,
        ⟨"guide", "guide", .reference "Name", true, false, true⟩,
        ⟨"day", "day", .primitive .string, true, false, false⟩,
        ⟨"fee", "fee", .primitive .integer, true, false, false⟩,
        ⟨"note", "note", .list .dynamic, true, true, false⟩]⟩] := by decide

end Extraction

end Exemplar
