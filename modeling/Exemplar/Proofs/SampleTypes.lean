import Exemplar.Proofs.SampleUnion

namespace Exemplar

namespace Json

/-- Samples agree when all values that they show under one key have the same type, nulls aside. -/
def Agree (samples : List (List (String × Json))) : Prop :=
  ∀ left ∈ samples, ∀ right ∈ samples, ∀ member ∈ left, ∀ other ∈ right,
    member.1 = other.1 → member.2 ≠ .null → other.2 ≠ .null →
      Shape.infer member.2 = Shape.infer other.2

/-- A sample shows the value of a member unless it is null. -/
theorem known?_of_mem {sample : List (String × Json)} (distinct : (keys sample).Nodup)
    {member : String × Json} (present : member ∈ sample) (notNull : member.2 ≠ .null) :
    known? member.1 sample = some member.2 := by
  obtain ⟨key, value⟩ := member
  rw [known?, member?_of_mem distinct present]
  cases value with
  | null => exact absurd rfl notNull
  | _ => rfl

/-- The value that a sample shows belongs to a member and is not null. -/
theorem mem_of_known? {key : String} {value : Json} {sample : List (String × Json)}
    (shown : known? key sample = some value) : (key, value) ∈ sample ∧ value ≠ .null := by
  unfold known? at shown
  split at shown
  · cases shown
  next notNull =>
    refine ⟨mem_of_member? shown, ?_⟩
    rintro rfl
    exact notNull shown

/-- A key under which some sample shows a value has a first value, which some sample shows. -/
theorem exists_firstKnown? {samples : List (List (String × Json))}
    (distinct : ∀ sample ∈ samples, (keys sample).Nodup) {sample : List (String × Json)}
    (sampled : sample ∈ samples) {member : String × Json} (present : member ∈ sample)
    (notNull : member.2 ≠ .null) :
    ∃ first, firstKnown? member.1 samples = some first ∧ first ≠ .null ∧
      ∃ source ∈ samples, (member.1, first) ∈ source := by
  have shown := known?_of_mem (distinct sample sampled) present notNull
  have found : (firstKnown? member.1 samples).isSome := by
    rw [firstKnown?, List.findSome?_isSome_iff]
    exact ⟨sample, sampled, Option.isSome_of_eq_some shown⟩
  obtain ⟨first, isFirst⟩ := Option.isSome_iff_exists.mp found
  obtain ⟨source, listed, firstShown⟩ := List.exists_of_findSome?_eq_some isFirst
  obtain ⟨held, firstNotNull⟩ := mem_of_known? firstShown
  exact ⟨first, isFirst, firstNotNull, source, listed, held⟩

end Json

namespace Model

/-- A model fits a sample when it has a field for every value of the sample that is not null, and
the type of the field is that of the value or dynamic. -/
def Fits (model : Model) (sample : List (String × Json)) : Prop :=
  ∀ member ∈ sample, member.2 ≠ .null →
    ∃ field ∈ model.fields, field.key = member.1 ∧
      (field.shape = Shape.infer member.2 ∨ field.shape = .dynamic)

/-- A model is typed by samples when it has one field for every key under which they show a value,
of the type of the first such value and not dynamic, and fits all samples exactly when they
agree. -/
structure TypedBy (model : Model) (samples : List (List (String × Json))) : Prop where
  distinct : model.keys.Nodup
  declared : ∀ sample ∈ samples, ∀ member ∈ sample, member.2 ≠ .null →
    ∃ first, Json.firstKnown? member.1 samples = some first ∧
      ∃ field ∈ model.fields, field.key = member.1 ∧ field.shape = Shape.infer first ∧
        field.shape ≠ .dynamic
  fits : (∀ sample ∈ samples, model.Fits sample) ↔ Json.Agree samples

/-- Two fields of a model with distinct keys are one field when they have one key. -/
theorem eq_of_same_key {model : Model} (distinct : model.keys.Nodup) {field other : Field}
    (present : field ∈ model.fields) (otherPresent : other ∈ model.fields)
    (same : field.key = other.key) : field = other :=
  List.inj_on_of_nodup_map distinct present otherPresent same

section Merged

variable {samples : List (List (String × Json))}

/-- A merged model declares the type of the first value under each key. -/
theorem exists_field_ofSamples (nullSafety : Bool) (name : String)
    (distinct : ∀ sample ∈ samples, (Json.keys sample).Nodup)
    {sample : List (String × Json)} (sampled : sample ∈ samples) {member : String × Json}
    (present : member ∈ sample) (notNull : member.2 ≠ .null) :
    ∃ first, Json.firstKnown? member.1 samples = some first ∧
      ∃ field ∈ (ofSamples nullSafety name samples).fields, field.key = member.1 ∧
        field.shape = Shape.infer first ∧ field.shape ≠ .dynamic := by
  obtain ⟨first, isFirst, firstNotNull, _⟩ :=
    Json.exists_firstKnown? distinct sampled present notNull
  have field := ofShown_mem_fields nullSafety name sampled present
  have shape : (Field.ofShown nullSafety member.1 (Json.shown member.1 samples)).shape =
      Shape.infer first := by
    have merged := shape_ofSamples field
    have key : (Field.ofShown nullSafety member.1 (Json.shown member.1 samples)).key =
        member.1 := rfl
    rw [key, isFirst] at merged
    exact merged
  refine ⟨first, isFirst, _, field, rfl, shape, ?_⟩
  rw [shape]
  exact mt Shape.infer_eq_dynamic_iff.mp firstNotNull

/-- A merged model that fits a sample gives each value of the sample the type of the first value
under its key. -/
theorem infer_eq_of_fits {nullSafety : Bool} {name : String}
    (distinct : ∀ sample ∈ samples, (Json.keys sample).Nodup)
    (keys : (ofSamples nullSafety name samples).keys.Nodup) {sample : List (String × Json)}
    (sampled : sample ∈ samples) (fits : (ofSamples nullSafety name samples).Fits sample)
    {member : String × Json} (present : member ∈ sample) (notNull : member.2 ≠ .null)
    {first : Json} (isFirst : Json.firstKnown? member.1 samples = some first) :
    Shape.infer member.2 = Shape.infer first := by
  obtain ⟨field, known, key, fitting⟩ := fits member present notNull
  obtain ⟨_, alsoFirst, declared, declaredKnown, declaredKey, shape, notDynamic⟩ :=
    exists_field_ofSamples nullSafety name distinct sampled present notNull
  obtain rfl := Option.some.inj (isFirst.symm.trans alsoFirst)
  obtain rfl := eq_of_same_key keys known declaredKnown (key.trans declaredKey.symm)
  rcases fitting with typed | dynamic
  · exact typed.symm.trans shape
  · exact absurd dynamic notDynamic

/-- A merged model fits all of its samples exactly when they agree. -/
theorem fits_ofSamples_iff {nullSafety : Bool} {name : String}
    (distinct : ∀ sample ∈ samples, (Json.keys sample).Nodup)
    (keys : (ofSamples nullSafety name samples).keys.Nodup) :
    (∀ sample ∈ samples, (ofSamples nullSafety name samples).Fits sample) ↔
      Json.Agree samples := by
  constructor
  · intro fits left leftSampled right rightSampled member present other otherPresent same
      notNull otherNotNull
    obtain ⟨first, isFirst, _⟩ := Json.exists_firstKnown? distinct leftSampled present notNull
    have leftTyped :=
      infer_eq_of_fits distinct keys leftSampled (fits left leftSampled) present notNull isFirst
    have rightTyped := infer_eq_of_fits distinct keys rightSampled (fits right rightSampled)
      otherPresent otherNotNull (same ▸ isFirst)
    exact leftTyped.trans rightTyped.symm
  · intro agree sample sampled member present notNull
    obtain ⟨first, isFirst, firstNotNull, source, listed, held⟩ :=
      Json.exists_firstKnown? distinct sampled present notNull
    obtain ⟨_, alsoFirst, field, known, key, shape, _⟩ :=
      exists_field_ofSamples nullSafety name distinct sampled present notNull
    obtain rfl := Option.some.inj (isFirst.symm.trans alsoFirst)
    refine ⟨field, known, key, .inl (shape.trans ?_)⟩
    exact agree source listed sample sampled _ held member present rfl firstNotNull notNull

end Merged

end Model

namespace Extraction

/-- Every nested model is typed by its samples. -/
theorem nested_typedBy {document : Json} {members : List (String × Json)}
    (wellFormed : document.WellFormed) (root : document.heldObject? = some members)
    (nullSafety : Bool) (given : String) :
    ∃ extraction, ofDocument nullSafety given document = .ok extraction ∧
      ∀ model ∈ extraction.models.nested,
        model.TypedBy (Json.samplesNamed model.name members) := by
  refine ⟨_, ofDocument_eq_ok_iff.mpr ⟨members, root, rfl⟩, ?_⟩
  intro model nested
  have objectFormed := wellFormed.object_held root
  obtain ⟨name, sampled, rfl⟩ := (mem_nested_ofMembers objectFormed).mp nested
  have readOff : Json.ReadOff (rootName given) members name _ := .nested sampled
  have distinct := readOff.distinct objectFormed
  have keys := (Model.isUnion_ofSamples nullSafety name distinct).distinct
  exact {
    distinct := keys
    declared := fun _ sampled _ present notNull =>
      Model.exists_field_ofSamples nullSafety name distinct sampled present notNull
    fits := Model.fits_ofSamples_iff distinct keys }

/-- In this document the samples of one model agree although the first of them shows a null, and the
samples of the other model do not. -/
def threeGuests : List (String × Json) :=
  [("host", .object [("guest", .string "Ada"), ("age", .null)]),
   ("friends", .array [.object [("guest", .string "Bob"), ("age", .integer 40)], .null]),
   ("last", .object [("guest", .string "Eve"), ("seats", .array []), ("age", .integer 41)]),
   ("day", .object [("hour", .integer 9), ("rooms", .array [])]),
   ("night", .object [("hour", .null), ("rooms", .array [.string "A"])])]

/-- The nested models of the document are typed by their samples. -/
theorem threeGuests_typedBy :
    (Json.object threeGuests).WellFormed ∧
      (Json.object threeGuests).heldObject? = some threeGuests ∧
      ∃ extraction, ofDocument false "Model" (.object threeGuests) = .ok extraction ∧
        ∀ model ∈ extraction.models.nested,
          model.TypedBy (Json.samplesNamed model.name threeGuests) := by
  have wellFormed : (Json.object threeGuests).WellFormed := by decide
  exact ⟨wellFormed, rfl, nested_typedBy wellFormed rfl false "Model"⟩

/-- In this document two samples of one model show values of different types under one key. -/
def twoTypes : List (String × Json) :=
  [("first", .object [("id", .integer 1)]), ("second", .object [("id", .string "a")])]

/-- The merged model does not fit the second sample. -/
theorem twoTypes_not_fits :
    ∃ extraction, ofDocument true "Model" (.object twoTypes) = .ok extraction ∧
      ¬ ∀ model ∈ extraction.models.nested,
        ∀ sample ∈ Json.samplesNamed model.name twoTypes, model.Fits sample := by
  refine ⟨ofMembers true "Model" twoTypes, rfl, ?_⟩
  intro fits
  have nested : (ofMembers true "Model" twoTypes).models.nested =
      [⟨"Id", [⟨"id", "id", .primitive .integer, true, false, false⟩]⟩] := by decide
  have samples : Json.samplesNamed "Id" twoTypes =
      [[("id", .integer 1)], [("id", .string "a")]] := rfl
  rw [nested] at fits
  obtain ⟨field, present, _, fitting⟩ := fits _ List.mem_cons_self [("id", .string "a")]
    (by simp [samples]) ("id", .string "a") List.mem_cons_self (by simp)
  rw [List.mem_singleton.mp present] at fitting
  rcases fitting with typed | dynamic
  · exact absurd typed (by decide)
  · exact absurd dynamic (by decide)

end Extraction

end Exemplar
