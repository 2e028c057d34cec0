import Exemplar.Emission
import Exemplar.Proofs.SampleUnion
import Mathlib.Data.List.Pairwise

namespace Exemplar

def Model.fieldNames (model : Model) : List String :=
  model.fields.map Field.name

namespace Json

/-- The keys of an object have distinct names. -/
def NamesApart (object : List (String × Json)) : Prop :=
  ((keys object).map Naming.camelCase).Nodup

/-- In the root and in every object that it holds the keys have distinct names. -/
def ObjectsNamedApart (members : List (String × Json)) : Prop :=
  NamesApart members ∧
    ∀ sample ∈ members.filterMap fun member => heldObject? member.2, NamesApart sample

/-- Two objects spell alike when keys of the same name are the same. -/
def SpellAlike (first second : List (String × Json)) : Prop :=
  ∀ key ∈ keys first, ∀ other ∈ keys second,
    Naming.camelCase key = Naming.camelCase other → key = other

/-- The samples of a document spell alike when any two samples of one model do. -/
def SamplesSpellAlike (members : List (String × Json)) : Prop :=
  ∀ name, (samplesNamed name members).Pairwise SpellAlike

instance : DecidablePred NamesApart := fun object =>
  inferInstanceAs (Decidable ((keys object).map Naming.camelCase).Nodup)

instance : DecidablePred ObjectsNamedApart := fun members =>
  inferInstanceAs (Decidable (NamesApart members ∧
    ∀ sample ∈ members.filterMap fun member => heldObject? member.2, NamesApart sample))

instance : Std.Symm SpellAlike where
  symm _ _ alike key present other otherPresent sameName :=
    (alike other otherPresent key present sameName.symm).symm

theorem NamesApart.spellAlike {object : List (String × Json)} (apart : NamesApart object) :
    SpellAlike object object := by
  intro key present other otherPresent sameName
  exact List.inj_on_of_nodup_map apart present otherPresent sameName

theorem ObjectsNamedApart.sample {members : List (String × Json)}
    (apart : ObjectsNamedApart members) {name : String} {sample : List (String × Json)}
    (sampled : sample ∈ samplesNamed name members) : NamesApart sample :=
  apart.2 sample (List.mem_filter.mp sampled).1

end Json

namespace Model

theorem fieldNames_ofSamples (nullSafety : Bool) (name : String)
    (samples : List (List (String × Json))) :
    (ofSamples nullSafety name samples).fieldNames =
      (ofSamples nullSafety name samples).keys.map Naming.camelCase := by
  simp [fieldNames, keys, ofSamples, Field.ofShown, Function.comp_def]

/-- A merged model has distinct names exactly when any two of its samples spell alike. -/
theorem nodup_fieldNames_ofSamples_iff {nullSafety : Bool} {name : String}
    {samples : List (List (String × Json))} (apart : ∀ sample ∈ samples, Json.NamesApart sample) :
    (ofSamples nullSafety name samples).fieldNames.Nodup ↔ samples.Pairwise Json.SpellAlike := by
  have keysDistinct : (ofSamples nullSafety name samples).keys.Nodup :=
    (isUnion_ofSamples nullSafety name fun sample sampled => (apart sample sampled).of_map).distinct
  -- The keys are distinct, so a name is repeated only by two keys of it.
  rw [fieldNames_ofSamples, List.nodup_map_iff_inj_on keysDistinct]
  simp only [mem_keys_ofSamples]
  constructor
  · intro injective
    apply List.pairwise_of_forall_mem_list
    intro first firstSampled second secondSampled key present other otherPresent
    exact injective key ⟨first, firstSampled, present⟩ other
      ⟨second, secondSampled, otherPresent⟩
  · rintro alike key ⟨first, firstSampled, present⟩ other ⟨second, secondSampled, otherPresent⟩
    have each : ∀ sample ∈ samples, Json.SpellAlike sample sample := fun sample sampled =>
      (apart sample sampled).spellAlike
    exact alike.forall_of_forall each firstSampled secondSampled key present other otherPresent

end Model

def TypeScript.Form.parameterNames : Form → List String
  | .constructedClass parameters => parameters.map Parameter.name
  | _ => []

def Dart.Constructor.parameterNames : Constructor → List String
  | .named parameters => parameters.map Parameter.name
  | _ => []

/-- The properties of a data class in Kotlin are its parameters, and a plain class has none. -/
def Kotlin.Class.parameterNames (declared : Class) : List String :=
  match declared.form with
  | .data => declared.properties.map Property.name
  | .plain => []

namespace Language

/-- This function lists, class by class, the names of the fields that the file of a model set
declares. -/
def declaredFields (language : Language) (settings : Settings) (set : ModelSet) :
    List (List String) :=
  match language with
  | .typeScript =>
      (TypeScript.file settings set).declarations.map fun declared =>
        declared.properties.map TypeScript.Property.name
  | .dart =>
      (Dart.file settings set).classes.map fun declared =>
        declared.properties.map Dart.Property.name
  | .kotlin =>
      (Kotlin.file settings set).classes.map fun declared =>
        declared.properties.map Kotlin.Property.name

/-- This function lists, class by class, the names of the parameters of the constructors in the file
of a model set. -/
def declaredParameters (language : Language) (settings : Settings) (set : ModelSet) :
    List (List String) :=
  match language with
  | .typeScript =>
      (TypeScript.file settings set).declarations.map fun declared => declared.form.parameterNames
  | .dart =>
      (Dart.file settings set).classes.map fun declared => declared.constructor.parameterNames
  | .kotlin => (Kotlin.file settings set).classes.map Kotlin.Class.parameterNames

/-- In every language the classes declare the fields of the models. -/
theorem declaredFields_eq (language : Language) (settings : Settings) (set : ModelSet) :
    language.declaredFields settings set = set.models.map Model.fieldNames := by
  cases language with
  | typeScript =>
      simp [declaredFields, TypeScript.file, TypeScript.declaration, TypeScript.property,
        Model.fieldNames, Function.comp_def]
  | dart =>
      simp [declaredFields, Dart.file, Dart.declare, Dart.property, Model.fieldNames,
        Function.comp_def]
  | kotlin =>
      simp [declaredFields, Kotlin.file, Kotlin.declare, Kotlin.property, Model.fieldNames,
        Function.comp_def]

/-- A parameter in TypeScript has the name of its field. -/
theorem name_parameters (known : NameSet) (fields : List Field) :
    (TypeScript.parameters known fields).map TypeScript.Parameter.name = fields.map Field.name := by
  induction fields with
  | nil => rfl
  | cons field later inductionHypothesis =>
      simp [TypeScript.parameters, inductionHypothesis]

/-- A constructor has no parameters, or one for each field of its model. -/
theorem declaredParameters_eq {language : Language} {settings : Settings} {set : ModelSet}
    {parameters : List String} (declared : parameters ∈ language.declaredParameters settings set) :
    parameters = [] ∨ ∃ model ∈ set.models, parameters = model.fieldNames := by
  cases language with
  | typeScript =>
      obtain ⟨_, ⟨model, member, rfl⟩, rfl⟩ := by
        simpa only [declaredParameters, TypeScript.file, List.mem_map] using declared
      rw [TypeScript.declaration, TypeScript.form]
      -- The form is an interface, a class with a constructor, or a class without one.
      split
      · exact .inl rfl
      · split
        · exact .inr ⟨model, member, name_parameters set.names model.fields⟩
        · exact .inl rfl
  | dart =>
      obtain ⟨_, ⟨model, member, rfl⟩, rfl⟩ := by
        simpa only [declaredParameters, Dart.file, List.mem_map] using declared
      rw [Dart.declare, Dart.constructor]
      split
      · refine .inr ⟨model, member, ?_⟩
        simp [Dart.Constructor.parameterNames, Dart.parameter, Model.fieldNames,
          Function.comp_def]
      · split <;> exact .inl rfl
  | kotlin =>
      obtain ⟨_, ⟨model, member, rfl⟩, rfl⟩ := by
        simpa only [declaredParameters, Kotlin.file, List.mem_map] using declared
      rw [Kotlin.declare, Kotlin.Class.parameterNames]
      split
      · refine .inr ⟨model, member, ?_⟩
        simp [Kotlin.property, Model.fieldNames, Function.comp_def]
      · exact .inl rfl

end Language

namespace Extraction

variable {nullSafety : Bool} {name : String} {members : List (String × Json)}

/-- The root model has distinct names when the root object has. -/
theorem nodup_fieldNames_root (apart : Json.NamesApart members) :
    (ofMembers nullSafety name members).models.root.fieldNames.Nodup := by
  have names : (ofMembers nullSafety name members).models.root.fieldNames =
      (Json.keys members).map Naming.camelCase := by
    rw [root_ofMembers]
    simp [Model.ofMembers, Model.fieldNames, Field.ofMember, Json.keys, Function.comp_def]
  rw [names]
  exact apart

/-- A nested model has distinct names exactly when any two of its samples spell alike. -/
theorem nodup_fieldNames_nested_iff (wellFormed : (Json.object members).WellFormed)
    (apart : Json.ObjectsNamedApart members) {model : Model}
    (nested : model ∈ (ofMembers nullSafety name members).models.nested) :
    model.fieldNames.Nodup ↔
      (Json.samplesNamed model.name members).Pairwise Json.SpellAlike := by
  obtain ⟨known, _, rfl⟩ := (mem_nested_ofMembers wellFormed).mp nested
  exact Model.nodup_fieldNames_ofSamples_iff fun _ sampled => apart.sample sampled

/-- All models have distinct names exactly when the samples of the document spell alike. -/
theorem nodup_fieldNames_models_iff (wellFormed : (Json.object members).WellFormed)
    (apart : Json.ObjectsNamedApart members) :
    (∀ model ∈ (ofMembers nullSafety name members).models.models, model.fieldNames.Nodup) ↔
      Json.SamplesSpellAlike members := by
  constructor
  · intro distinct known
    -- A name without samples has no model, and there is nothing to compare.
    by_cases unsampled : Json.samplesNamed known members = []
    · rw [unsampled]
      exact .nil
    · have nested : Model.ofSamples nullSafety known _ ∈
          (ofMembers nullSafety name members).models.nested :=
        (mem_nested_ofMembers wellFormed).mpr ⟨known, unsampled, rfl⟩
      exact (nodup_fieldNames_nested_iff wellFormed apart nested).mp
        (distinct _ (List.mem_append_left _ nested))
  · intro alike model member
    rcases List.mem_append.mp member with nested | isRoot
    · exact (nodup_fieldNames_nested_iff wellFormed apart nested).mpr (alike model.name)
    · rw [List.mem_singleton.mp isRoot]
      exact nodup_fieldNames_root apart.1

/-- When every object has distinct names, so has the root model, and a nested model has them exactly
when any two of its samples spell alike. The classes of a file repeat the names that the models
repeat, and their constructors repeat no others. -/
theorem nodup_fieldNames_iff {document : Json} {members : List (String × Json)}
    (wellFormed : document.WellFormed) (root : document.heldObject? = some members)
    (apart : Json.ObjectsNamedApart members) (nullSafety : Bool) (given : String) :
    ∃ extraction, ofDocument nullSafety given document = .ok extraction ∧
      extraction.models.root.fieldNames.Nodup ∧
      (∀ model ∈ extraction.models.nested, model.fieldNames.Nodup ↔
        (Json.samplesNamed model.name members).Pairwise Json.SpellAlike) ∧
      ∀ (language : Language) (settings : Settings),
        ((∀ names ∈ language.declaredFields settings extraction.models, names.Nodup) ↔
          Json.SamplesSpellAlike members) ∧
        (Json.SamplesSpellAlike members →
          ∀ names ∈ language.declaredParameters settings extraction.models, names.Nodup) := by
  have objectFormed := wellFormed.object_held root
  have allApart : (∀ model ∈ (ofMembers nullSafety (rootName given) members).models.models,
      model.fieldNames.Nodup) ↔ Json.SamplesSpellAlike members :=
    nodup_fieldNames_models_iff objectFormed apart
  refine ⟨_, ofDocument_eq_ok_iff.mpr ⟨members, root, rfl⟩, nodup_fieldNames_root apart.1,
    fun model nested => nodup_fieldNames_nested_iff objectFormed apart nested, ?_⟩
  intro language settings
  constructor
  · rw [Language.declaredFields_eq, List.forall_mem_map]
    exact allApart
  · intro alike parameters declared
    rcases Language.declaredParameters_eq declared with rfl | ⟨model, member, rfl⟩
    · exact List.nodup_nil
    · exact allApart.mpr alike model member

/-- In this document two samples share a key, and each has a renamed key of its own. -/
def sharedKey : List (String × Json) :=
  [("owner", .object [("user_id", .integer 1), ("e-mail", .string "ada")]),
   ("guests", .array [.object [("user_id", .integer 2), ("nick_name", .null)]])]

/-- The merged model of the two samples has distinct names. -/
theorem sharedKey_nodup_fieldNames :
    (Json.object sharedKey).WellFormed ∧
      (Json.object sharedKey).heldObject? = some sharedKey ∧
      Json.ObjectsNamedApart sharedKey ∧
      ∃ extraction, ofDocument false "Model" (.object sharedKey) = .ok extraction ∧
        extraction.models.root.fieldNames.Nodup ∧
        (∀ model ∈ extraction.models.nested, model.fieldNames.Nodup ↔
          (Json.samplesNamed model.name sharedKey).Pairwise Json.SpellAlike) ∧
        ∀ (language : Language) (settings : Settings),
          ((∀ names ∈ language.declaredFields settings extraction.models, names.Nodup) ↔
            Json.SamplesSpellAlike sharedKey) ∧
          (Json.SamplesSpellAlike sharedKey →
            ∀ names ∈ language.declaredParameters settings extraction.models, names.Nodup) := by
  have wellFormed : (Json.object sharedKey).WellFormed := by decide
  have apart : Json.ObjectsNamedApart sharedKey := by decide
  exact ⟨wellFormed, rfl, apart, nodup_fieldNames_iff wellFormed rfl apart false "Model"⟩

/-- In this document two samples spell the same name by different keys. -/
def twoSpellings : List (String × Json) :=
  [("first", .object [("id", .integer 1)]), ("second", .object [("Id", .integer 2)])]

/-- Every object has distinct names, but the merged model and its class repeat one. -/
theorem twoSpellings_repeats_name :
    (Json.object twoSpellings).WellFormed ∧ Json.ObjectsNamedApart twoSpellings ∧
      ∃ extraction, ofDocument false "Model" (.object twoSpellings) = .ok extraction ∧
        ¬ (∀ model ∈ extraction.models.models, model.fieldNames.Nodup) ∧
        ∀ (language : Language) (settings : Settings),
          ¬ ∀ names ∈ language.declaredFields settings extraction.models, names.Nodup := by
  refine ⟨by decide, by decide, ofMembers false "Model" twoSpellings, rfl, by decide, ?_⟩
  intro language settings
  rw [Language.declaredFields_eq]
  decide

end Extraction

end Exemplar
