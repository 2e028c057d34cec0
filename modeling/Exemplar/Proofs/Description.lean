import Exemplar.Proofs.ExtractedModels

/-
Described objects. A class should be the type of a field only when it describes the objects that the
field holds, which means that it has a field for each of their keys. Models are looked up by name
alone, so this holds for the fields of the root model, but an object inside a sample may take the
name of a model that was read off other objects.
-/

namespace Exemplar

namespace ModelSet

/-- A model set describes the fields of a model with respect to an object that the model was read
off: wherever the object holds an object whose name is known, models of that name have its keys. -/
def DescribesFields (set : ModelSet) (model : Model) (source : List (String × Json)) : Prop :=
  ∀ field ∈ model.fields, ∀ value, (field.key, value) ∈ source →
    ∀ object, value.heldObject? = some object → Shape.referenceName object ∈ set.names →
      ∀ key ∈ Json.keys object, ∃ described ∈ set.models,
        described.name = Shape.referenceName object ∧ key ∈ described.keys

/-- A model set describes a document when it describes the fields of the root model with respect to
the root object, and those of each nested model with respect to each of its samples. -/
def Describes (set : ModelSet) (members : List (String × Json)) : Prop :=
  set.DescribesFields set.root members ∧
    ∀ model ∈ set.nested, ∀ sample ∈ Json.samplesNamed model.name members,
      set.DescribesFields model sample

end ModelSet

namespace Json

/-- An object fits the names of a document when its name is that of no model, or all its keys are
keys of the objects that the models of its name are read off. -/
def FitsNames (rootName : String) (members object : List (String × Json)) : Prop :=
  (∃ sources, ReadOff rootName members (Shape.referenceName object) sources) →
    ∀ key ∈ keys object, ∃ sources,
      ReadOff rootName members (Shape.referenceName object) sources ∧
        ∃ source ∈ sources, key ∈ keys source

/-- This predicate holds when all objects that the samples of a document hold fit its names. -/
def DeeperObjectsFit (rootName : String) (members : List (String × Json)) : Prop :=
  ∀ member ∈ members, ∀ sample, heldObject? member.2 = some sample →
    ∀ inner ∈ sample, ∀ object, heldObject? inner.2 = some object →
      FitsNames rootName members object

end Json

namespace Extraction

variable {nullSafety : Bool} {name : String} {members : List (String × Json)}

/-- A key is described by a model of a name when an object that gave the model has the key. -/
theorem described_iff (wellFormed : (Json.object members).WellFormed) {known key : String} :
    (∃ described ∈ (ofMembers nullSafety name members).models.models,
        described.name = known ∧ key ∈ described.keys) ↔
      ∃ sources, Json.ReadOff name members known sources ∧
        ∃ source ∈ sources, key ∈ Json.keys source := by
  simp only [mem_models_ofMembers wellFormed]
  constructor
  · rintro ⟨_, ⟨_, sources, readOff, rfl⟩, rfl, present⟩
    exact ⟨sources, readOff, Model.mem_keys_ofSamples.mp present⟩
  · rintro ⟨sources, readOff, present⟩
    exact ⟨_, ⟨known, sources, readOff, rfl⟩, rfl, Model.mem_keys_ofSamples.mpr present⟩

/-- An object is described wherever its name is known exactly when it fits the names. -/
theorem described_object_iff (wellFormed : (Json.object members).WellFormed)
    {object : List (String × Json)} :
    (Shape.referenceName object ∈ (ofMembers nullSafety name members).models.names →
      ∀ key ∈ Json.keys object, ∃ described ∈ (ofMembers nullSafety name members).models.models,
        described.name = Shape.referenceName object ∧ key ∈ described.keys) ↔
      Json.FitsNames name members object := by
  simp only [Json.FitsNames, mem_names_ofMembers wellFormed, described_iff wellFormed]

/-- The objects that the root holds are samples, so the models describe them. -/
theorem describesFields_root (wellFormed : (Json.object members).WellFormed) :
    (ofMembers nullSafety name members).models.DescribesFields
      (ofMembers nullSafety name members).models.root members := by
  intro field _ value member object held
  apply (described_object_iff wellFormed).mpr
  intro _ key present
  have sampled : object ∈ Json.samplesNamed (Shape.referenceName object) members :=
    Json.mem_samplesNamed.mpr ⟨⟨_, member, held⟩, rfl⟩
  exact ⟨_, .nested (List.ne_nil_of_mem sampled), object, sampled, present⟩

/-- The models describe the fields of the nested models exactly when the deeper objects fit. -/
theorem describesFields_nested_iff (wellFormed : (Json.object members).WellFormed) :
    (∀ model ∈ (ofMembers nullSafety name members).models.nested,
        ∀ sample ∈ Json.samplesNamed model.name members,
          (ofMembers nullSafety name members).models.DescribesFields model sample) ↔
      Json.DeeperObjectsFit name members := by
  constructor
  · intro describes member isMember sample held inner isInner object innerHeld
    have sampled : sample ∈ Json.samplesNamed (Shape.referenceName sample) members :=
      Json.mem_samplesNamed.mpr ⟨⟨member, isMember, held⟩, rfl⟩
    have nested : Model.ofSamples nullSafety _ _ ∈
        (ofMembers nullSafety name members).models.nested :=
      (mem_nested_ofMembers wellFormed).mpr ⟨_, List.ne_nil_of_mem sampled, rfl⟩
    have present := Model.ofShown_mem_fields nullSafety (Shape.referenceName sample) sampled isInner
    exact (described_object_iff wellFormed).mp
      (describes _ nested sample sampled _ present inner.2 isInner object innerHeld)
  · intro fit model _ sample sampled field _ value isInner object held
    obtain ⟨⟨member, isMember, sampleHeld⟩, _⟩ := Json.mem_samplesNamed.mp sampled
    exact (described_object_iff wellFormed).mpr
      (fit member isMember sample sampleHeld _ isInner object held)

/-- The root model is always described, and the whole document exactly when the objects inside its
samples fit the names of the models. -/
theorem describes_iff {document : Json} {members : List (String × Json)}
    (wellFormed : document.WellFormed) (root : document.heldObject? = some members)
    (nullSafety : Bool) (given : String) :
    ∃ extraction, ofDocument nullSafety given document = .ok extraction ∧
      extraction.models.DescribesFields extraction.models.root members ∧
      (extraction.models.Describes members ↔
        Json.DeeperObjectsFit (rootName given) members) := by
  have objectFormed := wellFormed.object_held root
  refine ⟨_, ofDocument_eq_ok_iff.mpr ⟨members, root, rfl⟩, describesFields_root objectFormed, ?_⟩
  rw [ModelSet.Describes, describesFields_nested_iff objectFormed]
  exact and_iff_right (describesFields_root objectFormed)

/-- In this document an object inside a sample repeats the keys of a user. -/
def repeatedUser : List (String × Json) :=
  [("owner", .object [("user", .string "Ada"), ("age", .integer 36)]),
   ("order", .object [("buyer", .object [("user", .string "Bob"), ("age", .integer 40)])])]

/-- The inner user fits its name. -/
theorem repeatedUser_described :
    (Json.object repeatedUser).WellFormed ∧
      (Json.object repeatedUser).heldObject? = some repeatedUser ∧
      ∃ extraction, ofDocument false "Model" (.object repeatedUser) = .ok extraction ∧
        extraction.models.DescribesFields extraction.models.root repeatedUser ∧
        (extraction.models.Describes repeatedUser ↔
          Json.DeeperObjectsFit (rootName "Model") repeatedUser) := by
  have wellFormed : (Json.object repeatedUser).WellFormed := by decide
  exact ⟨wellFormed, rfl, describes_iff wellFormed rfl false "Model"⟩

/-- In this document an object inside a sample is named after the same key as a user, but has a key
that the user lacks. -/
def strayUser : List (String × Json) :=
  [("owner", .object [("user", .string "Ada")]),
   ("order", .object [("buyer", .object [("user", .string "Bob"), ("coupon", .integer 7)])])]

/-- The inner user is typed by a class that lacks one of its keys. -/
theorem strayUser_not_described :
    ∃ extraction, ofDocument false "Model" (.object strayUser) = .ok extraction ∧
      ¬ extraction.models.Describes strayUser := by
  refine ⟨ofMembers false "Model" strayUser, rfl, ?_⟩
  rintro ⟨_, nested⟩
  have models : (ofMembers false "Model" strayUser).models.models =
      [⟨"User", [⟨"user", "user", .primitive .string, false, false, false⟩]⟩,
        ⟨"Buyer", [⟨"buyer", "buyer", .reference "User", false, false, true⟩]⟩,
        ⟨"Model", [⟨"owner", "owner", .reference "User", false, false, true⟩,
          ⟨"order", "order", .reference "Buyer", false, false, true⟩]⟩] := by decide
  have described := nested
    ⟨"Buyer", [⟨"buyer", "buyer", .reference "User", false, false, true⟩]⟩ (by decide)
    [("buyer", .object [("user", .string "Bob"), ("coupon", .integer 7)])] List.mem_cons_self
    ⟨"buyer", "buyer", .reference "User", false, false, true⟩ List.mem_cons_self _
    List.mem_cons_self _ rfl (by decide) "coupon" (by decide)
  obtain ⟨model, member, sameName, present⟩ := described
  rw [models] at member
  have user : Shape.referenceName [("user", .string "Bob"), ("coupon", .integer 7)] = "User" := rfl
  rw [user] at sameName
  simp only [List.mem_cons, List.not_mem_nil, or_false] at member
  rcases member with rfl | rfl | rfl
  · exact absurd present (by decide)
  · exact absurd sameName (by decide)
  · exact absurd sameName (by decide)

end Extraction

end Exemplar
