import Exemplar.Emission
import Exemplar.Proofs.ExtractedModels

namespace Exemplar

def Notice.isMerging : Notice → Bool
  | .merging .. => true
  | _ => false

def Notice.isWarning (notice : Notice) : Bool :=
  notice.level = .warning

/-- This function lists the names of the classes in the file of a model set. -/
def Language.classNames (language : Language) (settings : Settings) (set : ModelSet) :
    List String :=
  match language with
  | .typeScript => (TypeScript.file settings set).declarations.map TypeScript.Declaration.name
  | .dart => (Dart.file settings set).classes.map Dart.Class.name
  | .kotlin => (Kotlin.file settings set).classes.map Kotlin.Class.name

/-- In every language the classes have the names of the models. -/
theorem Language.classNames_eq (language : Language) (settings : Settings) (set : ModelSet) :
    language.classNames settings set = set.models.map Model.name := by
  cases language with
  | typeScript =>
      simp [classNames, TypeScript.file, TypeScript.declaration, Function.comp_def]
  | dart => simp [classNames, Dart.file, Dart.declare, Function.comp_def]
  | kotlin => simp [classNames, Kotlin.file, Kotlin.declare, Function.comp_def]

namespace Extraction

def nestedNames (extraction : Extraction) : List String :=
  extraction.models.nested.map Model.name

theorem any_nested_iff {extraction : Extraction} {name : String} :
    (extraction.models.nested.any fun known => known.name == name) = true ↔
      name ∈ extraction.nestedNames := by
  simp [nestedNames]

section Step

variable (nullSafety : Bool) {extraction : Extraction} {sample : Sample}

/-- A further sample of a known model adds no model and gives the notice of a merge. -/
theorem addSample_known (known : sample.modelName ∈ extraction.nestedNames) :
    (addSample nullSafety extraction sample).nestedNames = extraction.nestedNames ∧
      (addSample nullSafety extraction sample).notices =
        extraction.notices ++ [.merging sample.modelName sample.key] := by
  rw [addSample, add, if_pos (any_nested_iff.mpr known)]
  refine ⟨?_, rfl⟩
  rw [nestedNames, List.map_map]
  apply List.map_congr_left
  intro model _
  rw [Function.comp_apply]
  split <;> rfl

/-- The first sample of a model adds the model and gives a warning if the model hides the root. -/
theorem addSample_new (new : sample.modelName ∉ extraction.nestedNames) :
    (addSample nullSafety extraction sample).nestedNames =
        extraction.nestedNames ++ [sample.modelName] ∧
      (addSample nullSafety extraction sample).notices =
        extraction.notices ++ if sample.modelName = extraction.models.root.name
          then [.sharesRootName sample.modelName] else [] := by
  rw [addSample, add, if_neg (mt any_nested_iff.mp new)]
  exact ⟨List.map_append, rfl⟩

end Step

/-- Samples are accounted for when each name among them has one model in the order of first
appearance, every other sample was merged, and there is one warning if a model hides the root. -/
structure Accounted (extraction : Extraction) (names : List String) : Prop where
  distinct : extraction.nestedNames.Nodup
  named : extraction.nestedNames = names.eraseDups
  merged : names.length =
    extraction.nestedNames.length + (extraction.notices.filter Notice.isMerging).length
  warned : extraction.notices.filter Notice.isWarning =
    if extraction.models.root.name ∈ extraction.nestedNames
    then [.sharesRootName extraction.models.root.name] else []
  each : ∀ notice ∈ extraction.notices, notice.isMerging = true ∨ notice.isWarning = true

/-- One step accounts for one more sample. -/
theorem Accounted.addSample {extraction : Extraction} {names : List String}
    (accounted : extraction.Accounted names) (nullSafety : Bool) (sample : Sample) :
    (addSample nullSafety extraction sample).Accounted (names ++ [sample.modelName]) := by
  have mem_names : sample.modelName ∈ extraction.nestedNames ↔ sample.modelName ∈ names := by
    rw [accounted.named, List.mem_eraseDups]
  by_cases known : sample.modelName ∈ extraction.nestedNames
  · obtain ⟨nested, notices⟩ := addSample_known nullSafety known
    refine ⟨?_, ?_, ?_, ?_, ?_⟩
    · rw [nested]
      exact accounted.distinct
    · rw [nested, eraseDups_append_seen (mem_names.mp known), accounted.named]
    · rw [nested, notices, List.filter_append, List.length_append, List.length_append,
        accounted.merged]
      rfl
    · rw [nested, notices, root_addSample, List.filter_append, accounted.warned]
      exact List.append_nil _
    · rw [notices]
      exact List.forall_mem_append.mpr ⟨accounted.each, by simp [Notice.isMerging]⟩
  · obtain ⟨nested, notices⟩ := addSample_new nullSafety known
    refine ⟨?_, ?_, ?_, ?_, ?_⟩
    · rw [nested, ← List.concat_eq_append]
      exact accounted.distinct.concat known
    · rw [nested, eraseDups_append_unseen (mt mem_names.mpr known), accounted.named]
    · have noMerge : (if sample.modelName = extraction.models.root.name
          then [Notice.sharesRootName sample.modelName] else []).filter Notice.isMerging = [] := by
        split <;> rfl
      rw [nested, notices, List.filter_append, noMerge, List.append_nil, List.length_append,
        List.length_append, accounted.merged, List.length_singleton]
      omega
    · rw [nested, notices, root_addSample, List.filter_append, accounted.warned]
      by_cases hides : sample.modelName = extraction.models.root.name
      · rw [hides] at known
        simp [hides, known, Notice.isWarning, Notice.level]
      · simp [hides, Ne.symm hides]
    · rw [notices]
      refine List.forall_mem_append.mpr ⟨accounted.each, ?_⟩
      split <;> simp [Notice.isWarning, Notice.level]

/-- A run accounts for all samples. -/
theorem accounted_foldl (nullSafety : Bool) {extraction : Extraction}
    (started : extraction.Accounted []) (samples : List Sample) :
    (samples.foldl (Extraction.addSample nullSafety) extraction).Accounted
      (samples.map Sample.modelName) := by
  induction samples using List.reverseRecOn with
  | nil => exact started
  | append_singleton samples last inductionHypothesis =>
      rw [List.foldl_append, List.map_append]
      exact inductionHypothesis.addSample nullSafety last

/-- The objects of a document are accounted for when the nested models have their names, each once
and in the order of first appearance, and the notices tell of every merge, of a model that hides the
root model, and last of the result. -/
structure AccountsFor (extraction : Extraction) (objects : List (List (String × Json))) : Prop where
  distinct : extraction.nestedNames.Nodup
  named : extraction.nestedNames = (objects.map Shape.referenceName).eraseDups
  merged : objects.length =
    extraction.models.nested.length + (extraction.notices.filter Notice.isMerging).length
  warned : extraction.notices.filter Notice.isWarning =
    if extraction.models.root.name ∈ extraction.nestedNames
    then [.sharesRootName extraction.models.root.name] else []
  apart : ∀ (language : Language) (settings : Settings),
    (language.classNames settings extraction.models).Nodup ↔
      ∀ notice ∈ extraction.notices, notice.level ≠ .warning
  last : ∃ earlier, extraction.notices = earlier ++
      [.extracted extraction.models.root.name extraction.models.root.fields.length
        extraction.models.nested.length] ∧
    ∀ notice ∈ earlier, notice.isMerging = true ∨ notice.isWarning = true

/-- The models of a set have distinct names when the nested models have and none of them hides the
root model. -/
theorem nodup_names_iff (extraction : Extraction) :
    (extraction.models.models.map Model.name).Nodup ↔
      extraction.nestedNames.Nodup ∧ extraction.models.root.name ∉ extraction.nestedNames := by
  rw [ModelSet.models, List.map_append, List.map_singleton, List.nodup_append]
  simp [nestedNames]

theorem modelNames_ofMembers (members : List (String × Json)) :
    (members.filterMap Sample.ofMember?).map Sample.modelName =
      (members.filterMap fun member => Json.heldObject? member.2).map Shape.referenceName := by
  rw [List.map_filterMap, List.map_filterMap]
  simp [Sample.ofMember?_eq, Sample.modelName, Function.comp_def]

/-- The last notice tells the result of an extraction that has taken all samples. -/
theorem Accounted.conclude {extraction : Extraction} {objects : List (List (String × Json))}
    (accounted : extraction.Accounted (objects.map Shape.referenceName)) :
    extraction.conclude.AccountsFor objects := by
  have warnings : extraction.conclude.notices.filter Notice.isWarning =
      extraction.notices.filter Notice.isWarning := by
    simp [Extraction.conclude, Notice.isWarning, Notice.level]
  exact {
    distinct := accounted.distinct
    named := accounted.named
    merged := by
      have count := accounted.merged
      simpa [Extraction.conclude, Notice.isMerging, nestedNames] using count
    warned := warnings.trans accounted.warned
    apart := by
      intro language settings
      have unhidden : extraction.models.root.name ∉ extraction.nestedNames ↔
          extraction.conclude.notices.filter Notice.isWarning = [] := by
        rw [warnings, accounted.warned]
        simp
      rw [Language.classNames_eq]
      refine (nodup_names_iff extraction).trans ((and_iff_right accounted.distinct).trans ?_)
      rw [unhidden, List.filter_eq_nil_iff]
      simp [Notice.isWarning]
    last := ⟨extraction.notices, rfl, accounted.each⟩ }

/-- The samples of every document are accounted for. -/
theorem samples_accounted {document : Json} {members : List (String × Json)}
    (root : document.heldObject? = some members) (nullSafety : Bool) (given : String) :
    ∃ extraction, ofDocument nullSafety given document = .ok extraction ∧
      extraction.AccountsFor (members.filterMap fun member => Json.heldObject? member.2) := by
  refine ⟨_, ofDocument_eq_ok_iff.mpr ⟨members, root, rfl⟩, ?_⟩
  have started : (start nullSafety (rootName given) members).Accounted [] :=
    ⟨List.nodup_nil, rfl, rfl, rfl, fun _ missing => absurd missing List.not_mem_nil⟩
  have accounted := accounted_foldl nullSafety started (members.filterMap Sample.ofMember?)
  rw [modelNames_ofMembers] at accounted
  exact accounted.conclude

/-- In this document two samples spell the name of one model by different keys, one sample has no
keys, and one gives a model that hides the root model. -/
def crowdedStreet : List (String × Json) :=
  [("home", .object [("street_name", .string "Elm"), ("number", .integer 4)]), ("tags", .array []),
   ("yard", .object []),
   ("offices", .array [.object [("street-name", .string "Oak")], .object [("floor", .null)]]),
   ("owner", .object [("user", .string "Ada")]), ("garage", .object [])]

/-- All five samples of the document are accounted for. -/
theorem crowdedStreet_accounted :
    (Json.object crowdedStreet).heldObject? = some crowdedStreet ∧
      ∃ extraction, ofDocument false "user" (.object crowdedStreet) = .ok extraction ∧
        extraction.AccountsFor (crowdedStreet.filterMap fun member => Json.heldObject? member.2) :=
  ⟨rfl, samples_accounted rfl false "user"⟩

example : (ofMembers false "User" crowdedStreet).notices =
    [.merging "StreetName" "offices", .sharesRootName "User", .merging "Object" "garage",
      .extracted "User" 6 3] := by decide

end Extraction

end Exemplar
