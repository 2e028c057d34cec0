import Exemplar.Proofs.MergedModel

/-
Extracted models. An extraction takes the samples of a document one by one, and its result is
described at once: there is one nested model for each name among the samples, in the order of their
first appearance, and each is merged from exactly the samples of its name.
-/

namespace Exemplar

/-- An object is named by one of its keys or has no name of its own. -/
theorem Shape.referenceName_cases (members : List (String × Json)) :
    referenceName members = emptyObjectName ∨
      ∃ member ∈ members, Naming.pascalCase member.1 ≠ "" ∧
        referenceName members = Naming.pascalCase member.1 := by
  cases members with
  | nil => exact .inl rfl
  | cons first rest =>
      by_cases unnamed : Naming.pascalCase first.1 = ""
      · exact .inl (if_pos unnamed)
      · exact .inr ⟨first, List.mem_cons_self, unnamed, if_neg unnamed⟩

namespace Sample

/-- This function selects the objects among the samples that belong to a model. -/
def objectsNamed (name : String) (samples : List Sample) : List (List (String × Json)) :=
  (samples.filter fun sample => sample.modelName = name).map members

theorem objectsNamed_append (name : String) (samples : List Sample) (last : Sample) :
    objectsNamed name (samples ++ [last]) =
      objectsNamed name samples ++ if last.modelName = name then [last.members] else [] := by
  by_cases same : last.modelName = name <;> simp [objectsNamed, same]

theorem objectsNamed_ne_nil {name : String} {samples : List Sample} :
    objectsNamed name samples ≠ [] ↔ name ∈ samples.map modelName := by
  simp [objectsNamed]

/-- A member of the root is a sample when it holds an object. -/
theorem ofMember?_eq (member : String × Json) :
    ofMember? member = (Json.heldObject? member.2).map fun object => ⟨member.1, object⟩ := by
  obtain ⟨key, value⟩ := member
  cases value with
  | array items =>
      cases items with
      | nil => rfl
      | cons first rest => cases first <;> rfl
  | _ => rfl

/-- The samples of a model are the objects of its name that the root holds. -/
theorem objectsNamed_ofMembers (name : String) (members : List (String × Json)) :
    objectsNamed name (members.filterMap ofMember?) = Json.samplesNamed name members := by
  unfold Json.samplesNamed
  induction members with
  | nil => rfl
  | cons first rest inductionHypothesis =>
      simp only [List.filterMap_cons, ofMember?_eq] at inductionHypothesis ⊢
      cases held : Json.heldObject? first.2 with
      | none => simpa using inductionHypothesis
      | some object =>
          simp only [Option.map_some]
          by_cases same : Shape.referenceName object = name
          · simpa [objectsNamed, modelName, same] using inductionHypothesis
          · simpa [objectsNamed, modelName, same] using inductionHypothesis

end Sample

namespace Extraction

/-- These are the models that a list of samples is merged into. -/
def nestedOf (nullSafety : Bool) (samples : List Sample) : List Model :=
  (samples.map Sample.modelName).eraseDups.map fun name =>
    Model.ofSamples nullSafety name (Sample.objectsNamed name samples)

theorem any_nestedOf {nullSafety : Bool} {samples : List Sample} {name : String} :
    ((nestedOf nullSafety samples).any fun known => known.name == name) =
      decide (name ∈ samples.map Sample.modelName) := by
  apply Bool.eq_iff_iff.mpr
  simp [nestedOf]

/-- A further sample of a known model is merged into that model alone. -/
theorem nestedOf_append_known {nullSafety : Bool} {samples : List Sample} {sample : Sample}
    (known : sample.modelName ∈ samples.map Sample.modelName)
    (distinct : (Json.keys sample.members).Nodup) :
    nestedOf nullSafety (samples ++ [sample]) =
      (nestedOf nullSafety samples).map fun model =>
        if model.name = sample.modelName then
          model.merge (Model.ofMembers nullSafety sample.modelName sample.members)
        else model := by
  have names : ((samples ++ [sample]).map Sample.modelName).eraseDups =
      (samples.map Sample.modelName).eraseDups := by
    rw [List.map_append]
    exact eraseDups_append_seen known
  unfold nestedOf
  rw [names, List.map_map]
  apply List.map_congr_left
  intro name _
  rw [Function.comp_apply, Sample.objectsNamed_append]
  by_cases same : sample.modelName = name
  · subst name
    have started := Sample.objectsNamed_ne_nil.mpr known
    rw [if_pos rfl, if_pos (Model.name_ofSamples _ _ _),
      Model.merge_ofSamples nullSafety _ started distinct]
  · have different : (Model.ofSamples nullSafety name
        (Sample.objectsNamed name samples)).name ≠ sample.modelName := Ne.symm same
    rw [if_neg same, if_neg different, List.append_nil]

/-- The first sample of a model adds the model. -/
theorem nestedOf_append_new {nullSafety : Bool} {samples : List Sample} {sample : Sample}
    (new : sample.modelName ∉ samples.map Sample.modelName)
    (distinct : (Json.keys sample.members).Nodup) :
    nestedOf nullSafety (samples ++ [sample]) =
      nestedOf nullSafety samples ++
        [Model.ofMembers nullSafety sample.modelName sample.members] := by
  have names : ((samples ++ [sample]).map Sample.modelName).eraseDups =
      (samples.map Sample.modelName).eraseDups ++ [sample.modelName] := by
    rw [List.map_append]
    exact eraseDups_append_unseen new
  have noSamples : Sample.objectsNamed sample.modelName samples = [] := by
    by_contra started
    exact new (Sample.objectsNamed_ne_nil.mp started)
  unfold nestedOf
  rw [names, List.map_append]
  congr 1
  · apply List.map_congr_left
    intro name member
    have different : sample.modelName ≠ name := by
      intro same
      exact new (same ▸ List.mem_eraseDups.mp member)
    rw [Sample.objectsNamed_append, if_neg different, List.append_nil]
  · rw [List.map_singleton, Sample.objectsNamed_append, noSamples, if_pos rfl, List.nil_append,
      Model.ofSamples_singleton nullSafety _ distinct]

/-- One step keeps the nested models those of the samples taken so far. -/
theorem nested_addSample {nullSafety : Bool} {extraction : Extraction} {samples : List Sample}
    {sample : Sample} (nested : extraction.models.nested = nestedOf nullSafety samples)
    (distinct : (Json.keys sample.members).Nodup) :
    (addSample nullSafety extraction sample).models.nested =
      nestedOf nullSafety (samples ++ [sample]) := by
  unfold addSample add
  simp only [nested, any_nestedOf]
  by_cases known : sample.modelName ∈ samples.map Sample.modelName
  · rw [if_pos (decide_eq_true known), nestedOf_append_known known distinct]
  · rw [if_neg (by simpa using known), nestedOf_append_new known distinct]

theorem root_addSample (nullSafety : Bool) (extraction : Extraction) (sample : Sample) :
    (addSample nullSafety extraction sample).models.root = extraction.models.root := by
  unfold addSample add
  dsimp only
  split <;> rfl

/-- A run over the samples gives the nested models of all of them. -/
theorem nested_foldl {nullSafety : Bool} {extraction : Extraction}
    (empty : extraction.models.nested = []) {samples : List Sample}
    (distinct : ∀ sample ∈ samples, (Json.keys sample.members).Nodup) :
    (samples.foldl (addSample nullSafety) extraction).models.nested =
      nestedOf nullSafety samples := by
  induction samples using List.reverseRecOn with
  | nil => exact empty
  | append_singleton samples last inductionHypothesis =>
      rw [List.foldl_append]
      have earlier := inductionHypothesis fun sample member =>
        distinct sample (List.mem_append_left _ member)
      exact nested_addSample earlier (distinct last (List.mem_append_right _ List.mem_cons_self))

/-- A run over the samples leaves the root model as it is. -/
theorem root_foldl (nullSafety : Bool) (extraction : Extraction) (samples : List Sample) :
    (samples.foldl (addSample nullSafety) extraction).models.root = extraction.models.root := by
  induction samples generalizing extraction with
  | nil => rfl
  | cons first rest inductionHypothesis =>
      rw [List.foldl_cons, inductionHypothesis, root_addSample]

section Invariant

variable {nullSafety : Bool} {invariant : Model → Prop}
  (merges : ∀ model other, invariant model → invariant other → invariant (model.merge other))

include merges

/-- One step keeps an invariant that merging keeps and that the model of the sample has. -/
theorem invariant_addSample {extraction : Extraction} {sample : Sample}
    (holds : ∀ model ∈ extraction.models.models, invariant model)
    (added : invariant (Model.ofMembers nullSafety sample.modelName sample.members)) :
    ∀ model ∈ (addSample nullSafety extraction sample).models.models, invariant model := by
  intro model member
  rcases List.mem_append.mp member with nested | isRoot
  · unfold addSample add at nested
    dsimp only at nested
    split at nested
    · obtain ⟨earlier, known, rfl⟩ := List.mem_map.mp nested
      have earlierHolds := holds earlier (List.mem_append_left _ known)
      split
      · exact merges _ _ earlierHolds added
      · exact earlierHolds
    · rcases List.mem_append.mp nested with known | new
      · exact holds model (List.mem_append_left _ known)
      · rw [List.mem_singleton.mp new]
        exact added
  · rw [root_addSample] at isRoot
    exact holds model (List.mem_append_right _ isRoot)

/-- A run over the samples keeps an invariant that merging keeps and that the models of all samples
have. -/
theorem invariant_foldl {extraction : Extraction} {samples : List Sample}
    (holds : ∀ model ∈ extraction.models.models, invariant model)
    (added : ∀ sample ∈ samples,
      invariant (Model.ofMembers nullSafety sample.modelName sample.members)) :
    ∀ model ∈ (samples.foldl (addSample nullSafety) extraction).models.models,
      invariant model := by
  induction samples generalizing extraction with
  | nil => exact holds
  | cons first rest inductionHypothesis =>
      have firstHolds := invariant_addSample merges holds (added first List.mem_cons_self)
      exact inductionHypothesis firstHolds fun sample member =>
        added sample (List.mem_cons_of_mem _ member)

/-- Every model has an invariant that merging keeps and that the models of the root and of all
samples have. -/
theorem invariant_ofMembers {name : String} {members : List (String × Json)}
    (root : invariant (Model.ofMembers nullSafety name members))
    (added : ∀ sample ∈ members.filterMap Sample.ofMember?,
      invariant (Model.ofMembers nullSafety sample.modelName sample.members)) :
    ∀ model ∈ (ofMembers nullSafety name members).models.models, invariant model := by
  have started : ∀ model ∈ (start nullSafety name members).models.models, invariant model := by
    intro model member
    rw [List.mem_singleton.mp member]
    exact root
  exact invariant_foldl merges started added

end Invariant

/-- Every sample of a well-formed document has distinct keys. -/
theorem distinct_samples {members : List (String × Json)}
    (wellFormed : (Json.object members).WellFormed) {sample : Sample}
    (sampled : sample ∈ members.filterMap Sample.ofMember?) :
    (Json.keys sample.members).Nodup := by
  obtain ⟨member, present, found⟩ := List.mem_filterMap.mp sampled
  rw [Sample.ofMember?_eq] at found
  obtain ⟨object, held, rfl⟩ := Option.map_eq_some_iff.mp found
  exact (wellFormed.object_member present held).distinct

/-- The nested models of a well-formed document are merged from its samples. -/
theorem nested_ofMembers {nullSafety : Bool} {name : String} {members : List (String × Json)}
    (wellFormed : (Json.object members).WellFormed) :
    (ofMembers nullSafety name members).models.nested =
      nestedOf nullSafety (members.filterMap Sample.ofMember?) :=
  nested_foldl rfl fun _ sampled => distinct_samples wellFormed sampled

theorem root_ofMembers (nullSafety : Bool) (name : String) (members : List (String × Json)) :
    (ofMembers nullSafety name members).models.root = Model.ofMembers nullSafety name members :=
  root_foldl nullSafety _ _

/-- There is one nested model for each name that has samples. -/
theorem mem_nested_ofMembers {nullSafety : Bool} {name : String} {members : List (String × Json)}
    (wellFormed : (Json.object members).WellFormed) {model : Model} :
    model ∈ (ofMembers nullSafety name members).models.nested ↔
      ∃ nested, Json.samplesNamed nested members ≠ [] ∧
        Model.ofSamples nullSafety nested (Json.samplesNamed nested members) = model := by
  rw [nested_ofMembers wellFormed]
  simp only [nestedOf, List.mem_map, List.mem_eraseDups, ← Sample.objectsNamed_ofMembers,
    Sample.objectsNamed_ne_nil]

/-- Every model is merged from the objects that it is read off. -/
theorem mem_models_ofMembers {nullSafety : Bool} {name : String} {members : List (String × Json)}
    (wellFormed : (Json.object members).WellFormed) {model : Model} :
    model ∈ (ofMembers nullSafety name members).models.models ↔
      ∃ known sources, Json.ReadOff name members known sources ∧
        Model.ofSamples nullSafety known sources = model := by
  have root : Model.ofSamples nullSafety name [members] =
      (ofMembers nullSafety name members).models.root := by
    rw [root_ofMembers, Model.ofSamples_singleton nullSafety name wellFormed.distinct]
  rw [ModelSet.models, List.mem_append, List.mem_singleton, mem_nested_ofMembers wellFormed]
  constructor
  · rintro (⟨nested, sampled, rfl⟩ | rfl)
    · exact ⟨nested, _, .nested sampled, rfl⟩
    · exact ⟨name, _, .root, root⟩
  · rintro ⟨known, _, readOff, rfl⟩
    cases readOff with
    | root => exact .inr root
    | nested sampled => exact .inl ⟨known, sampled, rfl⟩

/-- A name is known when a model of that name is read off some objects. -/
theorem mem_names_ofMembers {nullSafety : Bool} {name : String} {members : List (String × Json)}
    (wellFormed : (Json.object members).WellFormed) {known : String} :
    known ∈ (ofMembers nullSafety name members).models.names ↔
      ∃ sources, Json.ReadOff name members known sources := by
  simp only [ModelSet.names, NameSet.mem_ofList, List.mem_map, mem_models_ofMembers wellFormed]
  constructor
  · rintro ⟨_, ⟨_, sources, readOff, rfl⟩, rfl⟩
    exact ⟨sources, readOff⟩
  · rintro ⟨sources, readOff⟩
    exact ⟨_, ⟨known, sources, readOff, rfl⟩, rfl⟩

/-- The root is named by the given name or has the default name. -/
theorem rootName_cases (given : String) :
    rootName given = defaultRootName ∨
      Naming.pascalCase given ≠ "" ∧ rootName given = Naming.pascalCase given := by
  by_cases unnamed : Naming.pascalCase given = ""
  · exact .inl (if_pos unnamed)
  · exact .inr ⟨unnamed, if_neg unnamed⟩

/-- Only a document that is or starts with an object is extracted. -/
theorem ofDocument_eq_ok_iff {nullSafety : Bool} {given : String} {document : Json}
    {extraction : Extraction} :
    ofDocument nullSafety given document = .ok extraction ↔
      ∃ members, document.heldObject? = some members ∧
        ofMembers nullSafety (rootName given) members = extraction := by
  rw [ofDocument_eq]
  cases document with
  | array items =>
      cases items with
      | nil => simp [rootMembers, Json.heldObject?, Except.map]
      | cons first rest => cases first <;> simp [rootMembers, Json.heldObject?, Except.map]
  | _ => simp [rootMembers, Json.heldObject?, Except.map]

end Extraction

end Exemplar
