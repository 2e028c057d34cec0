import Exemplar.Proofs.Document
import Mathlib.Data.List.Induction

/-
Merged models. The model that any number of samples are merged into is described at once: its keys
are the keys of the samples in the order of their first appearance, and each field follows from what
the samples show under its key.
-/

namespace Exemplar

theorem Shape.infer_eq_dynamic_iff {value : Json} :
    Shape.infer value = .dynamic ↔ value = .null := by
  cases value with
  | array items => cases items <;> simp [infer]
  | _ => simp [infer]

/-- A list of distinct names consists of first occurrences. -/
theorem eraseDups_of_nodup {names : List String} (distinct : names.Nodup) :
    names.eraseDups = names := by
  induction names with
  | nil => rfl
  | cons first rest inductionHypothesis =>
      obtain ⟨fresh, restDistinct⟩ := List.nodup_cons.mp distinct
      have kept : rest.filter (fun name => !name == first) = rest := by
        rw [List.filter_eq_self]
        intro name member
        have different : name ≠ first := fun same => fresh (same ▸ member)
        simp [different]
      rw [List.eraseDups_cons, kept, inductionHypothesis restDistinct]

theorem eraseDups_append_seen {names : List String} {last : String} (seen : last ∈ names) :
    (names ++ [last]).eraseDups = names.eraseDups := by
  rw [List.eraseDups_append]
  simp [List.removeAll, seen]

theorem eraseDups_append_unseen {names : List String} {last : String} (unseen : last ∉ names) :
    (names ++ [last]).eraseDups = names.eraseDups ++ [last] := by
  rw [List.eraseDups_append]
  simp [List.removeAll, List.eraseDups_cons, unseen]

/-- Under a key, each sample shows a value or lacks the key. -/
def Json.shown (key : String) (samples : List (List (String × Json))) : List (Option Json) :=
  samples.map (Json.member? key)

namespace Field

/-- The first value that is not null decides the shape of a field. -/
def shapeOfShown : List (Option Json) → Shape
  | [] => .dynamic
  | none :: later => shapeOfShown later
  | some .null :: later => shapeOfShown later
  | some value :: _ => Shape.infer value

/-- This predicate holds when the first sample shows null. -/
def startsWithNull : List (Option Json) → Bool
  | some .null :: _ => true
  | _ => false

/-- A field is nullable when a sample lacks its key or the first sample shows null. -/
def nullableOfShown (nullSafety : Bool) (shown : List (Option Json)) : Bool :=
  nullSafety || shown.any Option.isNone || startsWithNull shown

/-- This function reads a field off what the samples show under its key. -/
def ofShown (nullSafety : Bool) (key : String) (shown : List (Option Json)) : Field where
  name := Naming.camelCase key
  key := key
  shape := shapeOfShown shown
  nullable := nullableOfShown nullSafety shown
  isList := (shapeOfShown shown).isList
  isReference := (shapeOfShown shown).isReference

/-- A later sample decides the shape only when the earlier ones do not. -/
theorem shapeOfShown_append (shown : List (Option Json)) (last : Option Json) :
    shapeOfShown (shown ++ [last]) =
      if shapeOfShown shown = .dynamic then shapeOfShown [last] else shapeOfShown shown := by
  induction shown using shapeOfShown.induct with
  | case1 => rfl
  | case2 later inductionHypothesis => exact inductionHypothesis
  | case3 later inductionHypothesis => exact inductionHypothesis
  | case4 value later notNull =>
      have decided : Shape.infer value ≠ .dynamic := mt Shape.infer_eq_dynamic_iff.mp notNull
      simp [shapeOfShown, decided]

theorem ofShown_singleton (nullSafety : Bool) (key : String) (value : Json) :
    ofShown nullSafety key [some value] = ofMember nullSafety (key, value) := by
  cases value <;> simp [ofShown, ofMember, shapeOfShown, nullableOfShown, startsWithNull,
    Shape.infer]

/-- A sample that lacks the key makes the field nullable and leaves its shape. -/
theorem ofShown_append_none (nullSafety : Bool) (key : String) (shown : List (Option Json)) :
    ofShown nullSafety key (shown ++ [none]) =
      { ofShown nullSafety key shown with nullable := true } := by
  have shape : shapeOfShown (shown ++ [none]) = shapeOfShown shown := by
    rw [shapeOfShown_append]
    split
    · next undecided => simp [shapeOfShown, undecided]
    · rfl
  simp [ofShown, shape, nullableOfShown]

/-- A further value may only decide the shape of the field, and the marks with it. -/
theorem ofShown_append_some (nullSafety : Bool) (key : String) {shown : List (Option Json)}
    (started : shown ≠ []) (value : Json) :
    ofShown nullSafety key (shown ++ [some value]) =
      if shapeOfShown shown = .dynamic then
        { ofShown nullSafety key shown with
          shape := Shape.infer value
          isList := (Shape.infer value).isList
          isReference := (Shape.infer value).isReference }
      else
        ofShown nullSafety key shown := by
  have last : shapeOfShown [some value] = Shape.infer value := by
    cases value <;> simp [shapeOfShown, Shape.infer]
  have head : startsWithNull (shown ++ [some value]) = startsWithNull shown := by
    cases shown with
    | nil => exact absurd rfl started
    | cons first later => cases first with
      | none => rfl
      | some first => cases first <;> rfl
  by_cases undecided : shapeOfShown shown = .dynamic <;>
    simp [ofShown, shapeOfShown_append, last, nullableOfShown, head, undecided]

/-- Samples that lack the key tell nothing about the shape. -/
theorem shapeOfShown_absent {shown : List (Option Json)} (absent : ∀ seen ∈ shown, seen = none) :
    shapeOfShown shown = .dynamic := by
  induction shown with
  | nil => rfl
  | cons first later inductionHypothesis =>
      obtain rfl := absent first List.mem_cons_self
      exact inductionHypothesis fun seen member => absent seen (List.mem_cons_of_mem _ member)

/-- A key that only the last sample has makes a nullable field of its member. -/
theorem ofShown_append_new (nullSafety : Bool) (key : String) {shown : List (Option Json)}
    (started : shown ≠ []) (absent : ∀ seen ∈ shown, seen = none) (value : Json) :
    ofShown nullSafety key (shown ++ [some value]) =
      { ofMember nullSafety (key, value) with nullable := true } := by
  have nullable : nullableOfShown nullSafety shown = true := by
    obtain ⟨first, member⟩ := List.exists_mem_of_ne_nil shown started
    have lacked : shown.any Option.isNone = true :=
      List.any_eq_true.mpr ⟨first, member, by rw [absent first member]; rfl⟩
    simp [nullableOfShown, lacked]
  rw [ofShown_append_some nullSafety key started, if_pos (shapeOfShown_absent absent)]
  simp [ofShown, ofMember, nullable]

end Field

namespace Json

/-- The samples start with null exactly when the first one holds null under the key. -/
theorem startsWithNull_shown {key : String} {first : List (String × Json)}
    (distinct : (keys first).Nodup) (later : List (List (String × Json))) :
    Field.startsWithNull (shown key (first :: later)) = true ↔ (key, .null) ∈ first := by
  have lookUp : (key, Json.null) ∈ first ↔ member? key first = some .null :=
    ⟨member?_of_mem distinct, mem_of_member?⟩
  rw [lookUp]
  simp only [shown, List.map_cons]
  cases member? key first with
  | none => simp [Field.startsWithNull]
  | some value => cases value <;> simp [Field.startsWithNull]

/-- Some sample lacks the key when one of them shows nothing at all. -/
theorem any_isNone_shown {key : String} {samples : List (List (String × Json))} :
    (shown key samples).any Option.isNone = true ↔ ∃ sample ∈ samples, key ∉ keys sample := by
  simp [shown, member?_eq_none_iff]

/-- A value in the first sample decides the shape of the field unless it is null. -/
theorem shapeOfShown_shown {key : String} {first : List (String × Json)}
    (distinct : (keys first).Nodup) (later : List (List (String × Json))) {value : Json}
    (present : (key, value) ∈ first) (notNull : value ≠ .null) :
    Field.shapeOfShown (shown key (first :: later)) = Shape.infer value := by
  have found := member?_of_mem distinct present
  simp only [shown, List.map_cons, found]
  cases value with
  | null => exact absurd rfl notNull
  | _ => rfl

end Json

namespace Model

/-- The fields of a merged model follow from the samples alone. -/
def ofSamples (nullSafety : Bool) (name : String) (samples : List (List (String × Json))) :
    Model where
  name := name
  fields := (samples.flatMap Json.keys).eraseDups.map fun key =>
    Field.ofShown nullSafety key (Json.shown key samples)

@[simp] theorem name_ofSamples (nullSafety : Bool) (name : String)
    (samples : List (List (String × Json))) : (ofSamples nullSafety name samples).name = name := rfl

/-- The field of a key is the field of its member. -/
theorem field?_ofMembers (nullSafety : Bool) (name key : String)
    (members : List (String × Json)) :
    (ofMembers nullSafety name members).field? key =
      (Json.member? key members).map fun value => Field.ofMember nullSafety (key, value) := by
  induction members with
  | nil => rfl
  | cons first rest inductionHypothesis =>
      unfold field? ofMembers at inductionHypothesis ⊢
      simp only [List.map_cons, List.find?_cons, Json.member?]
      by_cases same : first.1 = key
      · subst key
        simp [Field.ofMember]
      · have different : ((Field.ofMember nullSafety first).key == key) = false := by
          simpa [Field.ofMember] using same
        rw [different, if_neg same]
        exact inductionHypothesis

/-- A merged model has a field for exactly the keys of its samples. -/
theorem field?_ofSamples_isNone {nullSafety : Bool} {name key : String}
    {samples : List (List (String × Json))} :
    ((ofSamples nullSafety name samples).field? key).isNone ↔
      ∀ sample ∈ samples, key ∉ Json.keys sample := by
  simp only [field?, ofSamples, List.find?_map, Option.isNone_map, Option.isNone_iff_eq_none,
    List.find?_eq_none, List.mem_eraseDups, Function.comp_apply, Field.ofShown]
  constructor
  · intro missing sample member present
    exact missing key (List.mem_flatMap_of_mem member present) (beq_self_eq_true key)
  · intro missing found member same
    obtain ⟨sample, sampled, present⟩ := List.mem_flatMap.mp member
    exact missing sample sampled (eq_of_beq same ▸ present)

/-- A known field takes up what a further sample shows under its key. -/
theorem mergeField_ofShown (nullSafety : Bool) (name key : String) {shown : List (Option Json)}
    (started : shown ≠ []) (sample : List (String × Json)) :
    mergeField (ofMembers nullSafety name sample) (Field.ofShown nullSafety key shown) =
      Field.ofShown nullSafety key (shown ++ [Json.member? key sample]) := by
  unfold mergeField
  rw [field?_ofMembers]
  simp only [Field.ofShown]
  cases found : Json.member? key sample with
  | none =>
      have lacked := Field.ofShown_append_none nullSafety key shown
      simpa only [Field.ofShown, Option.map_none] using lacked.symm
  | some value =>
      have showed := Field.ofShown_append_some nullSafety key started value
      simp only [Field.ofShown, Option.map_some, Field.ofMember] at showed ⊢
      rw [showed]
      by_cases undecided : Field.shapeOfShown shown = .dynamic
      · by_cases untold : Shape.infer value = .dynamic <;> simp [undecided, untold]
      · simp [undecided]

/-- A key that no earlier sample has becomes a nullable field. -/
theorem newField_ofShown (nullSafety : Bool) (key : String) (value : Json)
    {samples : List (List (String × Json))} {sample : List (String × Json)} (started : samples ≠ [])
    (absent : ∀ earlier ∈ samples, key ∉ Json.keys earlier)
    (found : Json.member? key sample = some value) :
    { Field.ofMember nullSafety (key, value) with nullable := true } =
      Field.ofShown nullSafety key (Json.shown key (samples ++ [sample])) := by
  have lacked : ∀ seen ∈ Json.shown key samples, seen = none := by
    intro seen member
    obtain ⟨earlier, sampled, rfl⟩ := List.mem_map.mp member
    exact Json.member?_eq_none_iff.mpr (absent earlier sampled)
  have shownStarted : Json.shown key samples ≠ [] := by
    simpa only [Json.shown, ne_eq, List.map_eq_nil_iff] using started
  rw [show Json.shown key (samples ++ [sample]) = Json.shown key samples ++ [some value] by
    simp [Json.shown, found]]
  exact (Field.ofShown_append_new nullSafety key shownStarted lacked value).symm

/-- One sample alone is read as its own model. -/
theorem ofSamples_singleton (nullSafety : Bool) (name : String) {sample : List (String × Json)}
    (distinct : (Json.keys sample).Nodup) :
    ofSamples nullSafety name [sample] = ofMembers nullSafety name sample := by
  unfold ofSamples ofMembers
  rw [List.flatMap_singleton, eraseDups_of_nodup distinct, Json.keys, List.map_map]
  congr 1
  apply List.map_congr_left
  intro member present
  have found := Json.member?_of_mem distinct present
  simp only [Function.comp_apply, Json.shown, List.map_singleton, found]
  exact Field.ofShown_singleton nullSafety member.1 member.2

/-- The known fields of a merged model take up what a further sample shows. -/
theorem knownFields_ofSamples (nullSafety : Bool) (name : String)
    {samples : List (List (String × Json))} (started : samples ≠ [])
    (sample : List (String × Json)) :
    (ofSamples nullSafety name samples).fields.map
        (mergeField (ofMembers nullSafety name sample)) =
      (samples.flatMap Json.keys).eraseDups.map fun key =>
        Field.ofShown nullSafety key (Json.shown key (samples ++ [sample])) := by
  rw [ofSamples, List.map_map]
  apply List.map_congr_left
  intro key _
  have shownStarted : Json.shown key samples ≠ [] := by
    simpa only [Json.shown, ne_eq, List.map_eq_nil_iff] using started
  simpa [Json.shown] using mergeField_ofShown nullSafety name key shownStarted sample

/-- The new fields of a merged model belong to the keys that only the further sample has. -/
theorem newFields_ofSamples (nullSafety : Bool) (name : String)
    {samples : List (List (String × Json))} {sample : List (String × Json)} (started : samples ≠ [])
    (distinct : (Json.keys sample).Nodup) :
    (((ofMembers nullSafety name sample).fields.filter fun field =>
        ((ofSamples nullSafety name samples).field? field.key).isNone).map fun field =>
          { field with nullable := true }) =
      ((Json.keys sample).removeAll (samples.flatMap Json.keys)).map fun key =>
        Field.ofShown nullSafety key (Json.shown key (samples ++ [sample])) := by
  have isNew (member : String × Json) :
      ((ofSamples nullSafety name samples).field? (Field.ofMember nullSafety member).key).isNone =
        !(samples.flatMap Json.keys).elem member.1 := by
    apply Bool.eq_iff_iff.mpr
    rw [field?_ofSamples_isNone]
    simp [Field.ofMember]
  rw [ofMembers, List.filter_map, List.map_map, Json.keys, List.removeAll, List.filter_map,
    List.map_map]
  simp only [Function.comp_def, isNew]
  apply List.map_congr_left
  intro member kept
  obtain ⟨present, new⟩ := List.mem_filter.mp kept
  have absent : ∀ earlier ∈ samples, member.1 ∉ Json.keys earlier := by simpa using new
  exact newField_ofShown nullSafety member.1 member.2 started absent
    (Json.member?_of_mem distinct present)

/-- Merging a further sample gives the model of all samples. -/
theorem merge_ofSamples (nullSafety : Bool) (name : String)
    {samples : List (List (String × Json))} {sample : List (String × Json)} (started : samples ≠ [])
    (distinct : (Json.keys sample).Nodup) :
    (ofSamples nullSafety name samples).merge (ofMembers nullSafety name sample) =
      ofSamples nullSafety name (samples ++ [sample]) := by
  have fresh : ((Json.keys sample).removeAll (samples.flatMap Json.keys)).Nodup :=
    distinct.filter _
  have keys : ((samples ++ [sample]).flatMap Json.keys).eraseDups =
      (samples.flatMap Json.keys).eraseDups ++
        (Json.keys sample).removeAll (samples.flatMap Json.keys) := by
    rw [List.flatMap_append, List.flatMap_singleton, List.eraseDups_append,
      eraseDups_of_nodup fresh]
  rw [merge, knownFields_ofSamples nullSafety name started sample,
    newFields_ofSamples nullSafety name started distinct, ← List.map_append, ← keys]
  rfl

/-- Each field of a merged model follows from what the samples show under one of their keys. -/
theorem mem_fields_ofSamples {nullSafety : Bool} {name : String} {field : Field}
    {samples : List (List (String × Json))} :
    field ∈ (ofSamples nullSafety name samples).fields ↔
      ∃ key, (∃ sample ∈ samples, key ∈ Json.keys sample) ∧
        Field.ofShown nullSafety key (Json.shown key samples) = field := by
  simp [ofSamples]

theorem ofShown_mem_fields (nullSafety : Bool) (name : String)
    {samples : List (List (String × Json))} {sample : List (String × Json)}
    (sampled : sample ∈ samples) {member : String × Json} (present : member ∈ sample) :
    Field.ofShown nullSafety member.1 (Json.shown member.1 samples) ∈
      (ofSamples nullSafety name samples).fields :=
  mem_fields_ofSamples.mpr ⟨member.1, ⟨sample, sampled, List.mem_map_of_mem present⟩, rfl⟩

theorem mem_keys_ofSamples {nullSafety : Bool} {name key : String}
    {samples : List (List (String × Json))} :
    key ∈ (ofSamples nullSafety name samples).keys ↔
      ∃ sample ∈ samples, key ∈ Json.keys sample := by
  simp [keys, ofSamples, Field.ofShown]

/-- A field of a merged model is nullable for one of three reasons. -/
theorem nullable_ofSamples_iff {nullSafety : Bool} {name : String} {first : List (String × Json)}
    {later : List (List (String × Json))} (distinct : (Json.keys first).Nodup) {field : Field}
    (present : field ∈ (ofSamples nullSafety name (first :: later)).fields) :
    field.nullable = true ↔
      nullSafety = true ∨ (∃ sample ∈ first :: later, field.key ∉ Json.keys sample) ∨
        (field.key, .null) ∈ first := by
  obtain ⟨key, _, rfl⟩ := mem_fields_ofSamples.mp present
  change Field.nullableOfShown nullSafety (Json.shown key (first :: later)) = true ↔ _
  rw [Field.nullableOfShown, Bool.or_eq_true, Bool.or_eq_true, Json.any_isNone_shown,
    Json.startsWithNull_shown distinct, or_assoc]
  rfl

end Model

end Exemplar
