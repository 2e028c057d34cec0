import Exemplar.Proofs.ExtractedModels

namespace Exemplar

namespace Json

/-- A sample shows no value under a key that it lacks or that it holds null under. -/
def ShowsNoValue (key : String) (sample : List (String × Json)) : Prop :=
  key ∉ keys sample ∨ (key, .null) ∈ sample

/-- A null goes unnoticed when every sample has the key and only later samples hold null under it,
unless all fields are nullable anyway. -/
def NullUnnoticed (nullSafety : Bool) (key : String) :
    List (List (String × Json)) → Prop
  | [] => False
  | first :: later =>
      nullSafety = false ∧ (∀ sample ∈ first :: later, key ∈ keys sample) ∧
        (key, .null) ∉ first ∧ ∃ sample ∈ later, (key, .null) ∈ sample

end Json

namespace Model

/-- A field misses a null of its samples exactly when the null goes unnoticed. -/
theorem nullable_ofSamples_of_showsNoValue_iff {nullSafety : Bool} {name : String}
    {samples : List (List (String × Json))}
    (distinct : ∀ sample ∈ samples, (Json.keys sample).Nodup) {field : Field}
    (present : field ∈ (ofSamples nullSafety name samples).fields) :
    ((∃ sample ∈ samples, Json.ShowsNoValue field.key sample) → field.nullable = true) ↔
      ¬ Json.NullUnnoticed nullSafety field.key samples := by
  cases samples with
  | nil => simp [ofSamples] at present
  | cons first later =>
      have reasons := nullable_ofSamples_iff (distinct first List.mem_cons_self) present
      constructor
      · rintro admitted ⟨safetyOff, everywhere, notFirst, sample, sampled, null⟩
        have nullable := admitted ⟨sample, List.mem_cons_of_mem _ sampled, .inr null⟩
        rcases reasons.mp nullable with safetyOn | ⟨lacking, member, lacks⟩ | firstNull
        · exact Bool.false_ne_true (safetyOff.symm.trans safetyOn)
        · exact lacks (everywhere lacking member)
        · exact notFirst firstNull
      · rintro noticed ⟨sample, sampled, nothing⟩
        rw [reasons]
        by_contra unmarked
        obtain ⟨safetyOff, everywhere, notFirst⟩ : ¬ nullSafety = true ∧
            (¬ ∃ sample ∈ first :: later, field.key ∉ Json.keys sample) ∧
            (field.key, .null) ∉ first := by simpa only [not_or] using unmarked
        have held : ∀ other ∈ first :: later, field.key ∈ Json.keys other := by
          intro other member
          by_contra lacks
          exact everywhere ⟨other, member, lacks⟩
        rcases nothing with lacks | null
        · exact lacks (held sample sampled)
        · rcases List.mem_cons.mp sampled with rfl | isLater
          · exact notFirst null
          · exact noticed ⟨Bool.eq_false_iff.mpr safetyOff, held, notFirst, sample, isLater, null⟩

end Model

namespace Extraction

/-- A nested field admits null whenever one of its samples shows no value, exactly unless a null
goes unnoticed. -/
theorem nullable_of_showsNoValue_iff {document : Json} {members : List (String × Json)}
    (wellFormed : document.WellFormed) (root : document.heldObject? = some members)
    (nullSafety : Bool) (given : String) :
    ∃ extraction, ofDocument nullSafety given document = .ok extraction ∧
      ∀ model ∈ extraction.models.nested, ∀ field ∈ model.fields,
        ((∃ sample ∈ Json.samplesNamed model.name members,
            Json.ShowsNoValue field.key sample) → field.nullable = true) ↔
          ¬ Json.NullUnnoticed nullSafety field.key (Json.samplesNamed model.name members) := by
  refine ⟨_, ofDocument_eq_ok_iff.mpr ⟨members, root, rfl⟩, ?_⟩
  intro model nested field present
  have objectFormed := wellFormed.object_held root
  obtain ⟨name, sampled, rfl⟩ := (mem_nested_ofMembers objectFormed).mp nested
  have readOff : Json.ReadOff (rootName given) members name _ := .nested sampled
  exact Model.nullable_ofSamples_of_showsNoValue_iff (readOff.distinct objectFormed) present

/-- In this document the first sample has a null and the second lacks a key. -/
def nullAndGap : List (String × Json) :=
  [("first", .object [("id", .integer 1), ("zip", .null), ("floor", .integer 3)]),
   ("second", .object [("id", .integer 2), ("zip", .string "1234")])]

/-- A null in the first sample and a missing key are both noticed. -/
theorem nullAndGap_noticed :
    (Json.object nullAndGap).WellFormed ∧
      (Json.object nullAndGap).heldObject? = some nullAndGap ∧
      ∃ extraction, ofDocument false "Model" (.object nullAndGap) = .ok extraction ∧
        ∀ model ∈ extraction.models.nested, ∀ field ∈ model.fields,
          ((∃ sample ∈ Json.samplesNamed model.name nullAndGap,
              Json.ShowsNoValue field.key sample) → field.nullable = true) ↔
            ¬ Json.NullUnnoticed false field.key (Json.samplesNamed model.name nullAndGap) := by
  have wellFormed : (Json.object nullAndGap).WellFormed := by decide
  exact ⟨wellFormed, rfl, nullable_of_showsNoValue_iff wellFormed rfl false "Model"⟩

/-- In this document only the second sample has a null. -/
def laterNull : List (String × Json) :=
  [("first", .object [("id", .integer 1), ("zip", .string "1234")]),
   ("second", .object [("id", .integer 2), ("zip", .null)])]

/-- The field of a null that only the second sample shows is not nullable. -/
theorem laterNull_unnoticed :
    ∃ extraction, ofDocument false "Model" (.object laterNull) = .ok extraction ∧
      ¬ ∀ model ∈ extraction.models.nested, ∀ field ∈ model.fields,
        (∃ sample ∈ Json.samplesNamed model.name laterNull,
          Json.ShowsNoValue field.key sample) → field.nullable = true := by
  refine ⟨ofMembers false "Model" laterNull, rfl, ?_⟩
  intro sound
  have nested : (ofMembers false "Model" laterNull).models.nested =
      [⟨"Id", [⟨"id", "id", .primitive .integer, false, false, false⟩,
        ⟨"zip", "zip", .primitive .string, false, false, false⟩]⟩] := by decide
  have samples : Json.samplesNamed "Id" laterNull =
      [[("id", .integer 1), ("zip", .string "1234")], [("id", .integer 2), ("zip", .null)]] := rfl
  rw [nested] at sound
  have nullable := sound _ List.mem_cons_self
    ⟨"zip", "zip", .primitive .string, false, false, false⟩
    (List.mem_cons_of_mem _ List.mem_cons_self)
    ⟨[("id", .integer 2), ("zip", .null)], by simp [samples], .inr (by simp)⟩
  exact Bool.false_ne_true nullable

end Extraction

end Exemplar
