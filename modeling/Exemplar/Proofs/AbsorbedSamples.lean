import Exemplar.Proofs.CoherentModels
import Exemplar.Proofs.SampleAccounts

namespace Exemplar

namespace Field

/-- A field grows when it keeps its name and its key, stays nullable if it was, and keeps its shape
and its marks if that was known. -/
structure GrowsInto (field grown : Field) : Prop where
  name : grown.name = field.name
  key : grown.key = field.key
  nullable : field.nullable = true → grown.nullable = true
  shape : field.shape ≠ .dynamic → grown.shape = field.shape
  marks : field.shape ≠ .dynamic →
    grown.isList = field.isList ∧ grown.isReference = field.isReference

theorem GrowsInto.refl (field : Field) : field.GrowsInto field :=
  ⟨rfl, rfl, id, fun _ => rfl, fun _ => ⟨rfl, rfl⟩⟩

/-- A field grows when another sample is merged into it. -/
theorem growsInto_mergeField (other : Model) (field : Field) :
    field.GrowsInto (Model.mergeField other field) := by
  unfold Model.mergeField
  split
  · exact ⟨rfl, rfl, fun _ => rfl, fun _ => rfl, fun _ => ⟨rfl, rfl⟩⟩
  · split
    next taken =>
      exact ⟨rfl, rfl, id, fun decided => absurd taken.1 decided,
        fun decided => absurd taken.1 decided⟩
    · exact GrowsInto.refl field

/-- While the shape is unknown, no sample has shown a value that decides it. -/
theorem shapeOfShown_singleton {shown : List (Option Json)} {seen : Option Json}
    (member : seen ∈ shown) (undecided : shapeOfShown shown = .dynamic) :
    shapeOfShown [seen] = .dynamic := by
  induction shown using shapeOfShown.induct with
  | case1 => cases member
  | case2 later inductionHypothesis =>
      rcases List.mem_cons.mp member with rfl | earlier
      · rfl
      · exact inductionHypothesis earlier undecided
  | case3 later inductionHypothesis =>
      rcases List.mem_cons.mp member with rfl | earlier
      · rfl
      · exact inductionHypothesis earlier undecided
  | case4 value later notNull =>
      have decided : Shape.infer value ≠ .dynamic := mt Shape.infer_eq_dynamic_iff.mp notNull
      exact absurd undecided (by simpa [shapeOfShown] using decided)

/-- What a sample has shown before tells nothing new about a field. -/
theorem ofShown_append_seen (nullSafety : Bool) (key : String) {shown : List (Option Json)}
    {seen : Option Json} (member : seen ∈ shown) :
    ofShown nullSafety key (shown ++ [seen]) = ofShown nullSafety key shown := by
  have started : shown ≠ [] := List.ne_nil_of_mem member
  cases seen with
  | none =>
      have lacked : shown.any Option.isNone = true := List.any_eq_true.mpr ⟨none, member, rfl⟩
      rw [ofShown_append_none]
      simp [ofShown, nullableOfShown, lacked]
  | some value =>
      rw [ofShown_append_some nullSafety key started]
      split
      next undecided =>
        have untold : Shape.infer value = .dynamic :=
          (congrArg Field.shape (ofShown_singleton nullSafety key value)).symm.trans
            (shapeOfShown_singleton member undecided)
        simp [ofShown, undecided, untold]
      · rfl

end Field

namespace Model

/-- A model grows when it keeps its name, its keys are the first ones of the grown model, and its
fields grow where they stand. -/
structure GrowsInto (model grown : Model) : Prop where
  name : grown.name = model.name
  keys : model.keys <+: grown.keys
  fields : ∃ kept new, grown.fields = kept ++ new ∧
    List.Forall₂ Field.GrowsInto model.fields kept

theorem GrowsInto.refl (model : Model) : model.GrowsInto model :=
  ⟨rfl, List.prefix_rfl, model.fields, [], (List.append_nil _).symm,
    List.forall₂_same.mpr fun field _ => Field.GrowsInto.refl field⟩

/-- A model grows when another one is merged into it. -/
theorem growsInto_merge (model other : Model) : model.GrowsInto (model.merge other) where
  name := rfl
  keys := keys_merge model other ▸ List.prefix_append _ _
  fields := by
    refine ⟨_, _, rfl, ?_⟩
    rw [List.forall₂_map_right_iff, List.forall₂_same]
    exact fun field _ => Field.growsInto_mergeField other field

/-- A sample that was merged before adds nothing to the model of all samples. -/
theorem ofSamples_append_seen (nullSafety : Bool) (name : String)
    {samples : List (List (String × Json))} {sample : List (String × Json)}
    (sampled : sample ∈ samples) :
    ofSamples nullSafety name (samples ++ [sample]) = ofSamples nullSafety name samples := by
  have noNewKey : (Json.keys sample).removeAll (samples.flatMap Json.keys) = [] := by
    rw [List.removeAll, List.filter_eq_nil_iff]
    intro key present
    simpa using ⟨sample, sampled, present⟩
  have keys : ((samples ++ [sample]).flatMap Json.keys).eraseDups =
      (samples.flatMap Json.keys).eraseDups := by
    rw [List.flatMap_append, List.flatMap_singleton, List.eraseDups_append, noNewKey]
    exact List.append_nil _
  unfold ofSamples
  rw [keys]
  congr 1
  apply List.map_congr_left
  intro key _
  have shown : Json.shown key (samples ++ [sample]) =
      Json.shown key samples ++ [Json.member? key sample] := by
    simp [Json.shown]
  rw [shown]
  exact Field.ofShown_append_seen nullSafety key (List.mem_map_of_mem sampled)

/-- Merging a sample again leaves the model of all samples as it is. -/
theorem merge_ofSamples_seen (nullSafety : Bool) (name : String)
    {samples : List (List (String × Json))} {sample : List (String × Json)}
    (sampled : sample ∈ samples) (distinct : (Json.keys sample).Nodup) :
    (ofSamples nullSafety name samples).merge (ofMembers nullSafety name sample) =
      ofSamples nullSafety name samples := by
  rw [merge_ofSamples nullSafety name (List.ne_nil_of_mem sampled) distinct,
    ofSamples_append_seen nullSafety name sampled]

end Model

namespace Extraction

/-- The objects of the samples that belong to a model are those of its name. -/
theorem mem_objectsNamed {sample : Sample} {samples : List Sample} (sampled : sample ∈ samples) :
    sample.members ∈ Sample.objectsNamed sample.modelName samples := by
  simpa [Sample.objectsNamed] using ⟨sample, ⟨sampled, rfl⟩, rfl⟩

/-- One more sample lets every nested model grow where it stands. -/
theorem grows_addSample (nullSafety : Bool) (extraction : Extraction) (sample : Sample) :
    ∃ kept new, (addSample nullSafety extraction sample).models.nested = kept ++ new ∧
      List.Forall₂ Model.GrowsInto extraction.models.nested kept := by
  unfold addSample add
  dsimp only
  split
  · refine ⟨_, [], (List.append_nil _).symm, ?_⟩
    rw [List.forall₂_map_right_iff, List.forall₂_same]
    intro model _
    split
    · exact Model.growsInto_merge model _
    · exact Model.GrowsInto.refl model
  · exact ⟨_, _, rfl, List.forall₂_same.mpr fun model _ => Model.GrowsInto.refl model⟩

/-- A sample of a known model changes no model when merging it leaves the models of its name as they
are. -/
theorem addSample_eq_self {nullSafety : Bool} {extraction : Extraction} {sample : Sample}
    (known : sample.modelName ∈ extraction.nestedNames)
    (merged : ∀ model ∈ extraction.models.nested, sample.modelName = model.name →
      model.merge (Model.ofMembers nullSafety model.name sample.members) = model) :
    (addSample nullSafety extraction sample).models = extraction.models := by
  have same : (extraction.models.nested.map fun model =>
      if model.name = sample.modelName then
        model.merge (Model.ofMembers nullSafety sample.modelName sample.members)
      else model) = extraction.models.nested := by
    conv_rhs => rw [← List.map_id extraction.models.nested]
    apply List.map_congr_left
    intro model listed
    split
    next named =>
      rw [← named]
      exact merged model listed named.symm
    · rfl
  unfold addSample add
  dsimp only
  rw [if_pos (any_nested_iff.mpr known), same]

/-- An extraction absorbs samples when its nested models can only grow by a merge and by a step,
while any of these samples leaves its model as it is when it is merged once more, and the whole
model set when a step takes it once more. -/
structure Absorbs (nullSafety : Bool) (extraction : Extraction) (samples : List Sample) : Prop where
  grows : ∀ model ∈ extraction.models.nested, ∀ other, model.GrowsInto (model.merge other)
  extended : ∀ sample,
    ∃ kept new, (addSample nullSafety extraction sample).models.nested = kept ++ new ∧
      List.Forall₂ Model.GrowsInto extraction.models.nested kept
  merged : ∀ model ∈ extraction.models.nested, ∀ sample ∈ samples,
    sample.modelName = model.name →
      model.merge (Model.ofMembers nullSafety model.name sample.members) = model
  repeated : ∀ sample ∈ samples,
    (addSample nullSafety extraction sample).models = extraction.models

/-- A nested model of a run over samples stays as it is when one of its samples is merged again. -/
theorem merge_eq_self_of_mem_nestedOf {nullSafety : Bool} {samples : List Sample} {model : Model}
    (nested : model ∈ nestedOf nullSafety samples) {sample : Sample} (sampled : sample ∈ samples)
    (named : sample.modelName = model.name) (distinct : (Json.keys sample.members).Nodup) :
    model.merge (Model.ofMembers nullSafety model.name sample.members) = model := by
  obtain ⟨name, _, rfl⟩ := List.mem_map.mp nested
  obtain rfl : sample.modelName = name := named
  exact Model.merge_ofSamples_seen nullSafety _ (mem_objectsNamed sampled) distinct

/-- A run over any samples absorbs each of them. -/
theorem absorbs_foldl (nullSafety : Bool) (name : String) (members : List (String × Json))
    {samples : List Sample} (distinct : ∀ sample ∈ samples, (Json.keys sample.members).Nodup) :
    Absorbs nullSafety (samples.foldl (addSample nullSafety) (start nullSafety name members))
      samples := by
  obtain ⟨extraction, reached⟩ :
      ∃ extraction, samples.foldl (addSample nullSafety) (start nullSafety name members) =
        extraction := ⟨_, rfl⟩
  have nested : extraction.models.nested = nestedOf nullSafety samples :=
    reached ▸ nested_foldl rfl distinct
  have merged : ∀ model ∈ extraction.models.nested, ∀ sample ∈ samples,
      sample.modelName = model.name →
        model.merge (Model.ofMembers nullSafety model.name sample.members) = model :=
    fun model listed sample sampled named =>
      merge_eq_self_of_mem_nestedOf (nested ▸ listed) sampled named (distinct sample sampled)
  rw [reached]
  refine ⟨fun model _ other => Model.growsInto_merge model other,
    grows_addSample nullSafety extraction, merged, ?_⟩
  intro sample sampled
  have known : sample.modelName ∈ extraction.nestedNames := by
    rw [← any_nested_iff, nested, any_nestedOf]
    exact decide_eq_true (List.mem_map_of_mem sampled)
  exact addSample_eq_self known fun model listed => merged model listed sample sampled

/-- Two of these samples belong to one model, and a sample of another model is between them. The
second one decides a type and adds a field. -/
def threeStops : List Sample :=
  [⟨"start", [("id", .integer 1), ("guide", .null), ("day", .string "Mon")]⟩,
    ⟨"lunch", [("name", .string "Ada"), ("menu", .array [])]⟩,
    ⟨"end", [("id", .integer 2), ("guide", .object [("name", .string "Bo")]),
      ("fee", .null)]⟩]

/-- A run over the samples absorbs each of them. -/
theorem threeStops_absorbed :
    (∀ sample ∈ threeStops, (Json.keys sample.members).Nodup) ∧
      Absorbs false (threeStops.foldl (addSample false) (start false "Trip" [])) threeStops := by
  have distinct : ∀ sample ∈ threeStops, (Json.keys sample.members).Nodup := by decide
  exact ⟨distinct, absorbs_foldl false "Trip" [] distinct⟩

example : ((threeStops ++ threeStops).foldl (addSample false) (start false "Trip" [])).models =
    ⟨[⟨"Id", [⟨"id", "id", .primitive .integer, false, false, false⟩,
        ⟨"guide", "guide", .reference "Name", true, false, true⟩,
        ⟨"day", "day", .primitive .string, true, false, false⟩,
        ⟨"fee", "fee", .dynamic, true, false, false⟩]⟩,
      ⟨"Name", [⟨"name", "name", .primitive .string, false, false, false⟩,
        ⟨"menu", "menu", .list .dynamic, false, true, false⟩]⟩], ⟨"Trip", []⟩⟩ := by decide

end Extraction

end Exemplar
