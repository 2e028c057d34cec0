import Exemplar.Model.Extraction

namespace Exemplar

namespace Json

/-- Taking a member out finds the value that a lookup finds and leaves the values of other keys. -/
theorem member?_of_takeMember? {key : String} {value : Json} {members others : List (String × Json)}
    (taken : takeMember? key members = some (value, others)) :
    member? key members = some value ∧
      ∀ other, other ≠ key → member? other others = member? other members := by
  induction members generalizing others with
  | nil => cases taken
  | cons member rest inductionHypothesis =>
      rw [takeMember?] at taken
      by_cases here : member.1 = key
      · rw [if_pos here] at taken
        obtain ⟨rfl, rfl⟩ := Prod.mk.inj (Option.some.inj taken)
        refine ⟨by rw [member?, if_pos here], ?_⟩
        intro other different
        rw [member?, if_neg fun same => different (same.symm.trans here)]
      · rw [if_neg here, Option.map_eq_some_iff] at taken
        obtain ⟨⟨found, left⟩, later, same⟩ := taken
        obtain ⟨rfl, rfl⟩ := Prod.mk.inj same
        obtain ⟨value, kept⟩ := inductionHypothesis later
        refine ⟨by rw [member?, if_neg here, value], ?_⟩
        intro other different
        rw [member?, member?, kept other different]

theorem member?_eq_none_of_takeMember? {key : String} {members : List (String × Json)}
    (missing : takeMember? key members = none) : member? key members = none := by
  induction members with
  | nil => rfl
  | cons member rest inductionHypothesis =>
      rw [takeMember?] at missing
      by_cases here : member.1 = key
      · rw [if_pos here] at missing
        cases missing
      · rw [if_neg here, Option.map_eq_none_iff] at missing
        rw [member?, if_neg here, inductionHypothesis missing]

end Json

namespace Sample

/-- Only an object and a list that starts with one hold a sample. -/
def ofMember? : String × Json → Option Sample
  | (key, .object members) => some ⟨key, members⟩
  | (key, .array (.object members :: _)) => some ⟨key, members⟩
  | _ => none

end Sample

namespace Extraction

/-- This function extracts the models from the members of a document by a run over its samples. -/
def ofMembers (nullSafety : Bool) (name : String) (members : List (String × Json)) : Extraction :=
  ((members.filterMap Sample.ofMember?).foldl (addSample nullSafety)
    (start nullSafety name members)).conclude

variable (nullSafety : Bool)

/-- In this step a field finds its value among all members of the document. -/
def lookUpField (members : List (String × Json)) (extraction : Extraction) (field : Field) :
    Except Error Extraction := do
  let value ← (Lookup.member field.key).found (Json.member? field.key members)
  addField nullSafety extraction field value

/-- Fields of different keys find the same values whether members are taken out or not. -/
theorem addFields_eq_foldlM {fields : List Field} (distinct : (fields.map Field.key).Nodup)
    {all members : List (String × Json)}
    (agree : ∀ field ∈ fields, Json.member? field.key members = Json.member? field.key all)
    (extraction : Extraction) :
    addFields nullSafety extraction fields members =
      fields.foldlM (lookUpField nullSafety all) extraction := by
  induction fields generalizing members extraction with
  | nil => rfl
  | cons field later inductionHypothesis =>
      obtain ⟨new, laterDistinct⟩ := List.nodup_cons.mp distinct
      rw [addFields, List.foldlM_cons, lookUpField, ← agree field List.mem_cons_self]
      cases taken : Json.takeMember? field.key members with
      | none =>
          rw [Json.member?_eq_none_of_takeMember? taken]
          rfl
      | some found =>
          obtain ⟨value, others⟩ := found
          obtain ⟨here, kept⟩ := Json.member?_of_takeMember? taken
          have laterAgree : ∀ other ∈ later,
              Json.member? other.key others = Json.member? other.key all := by
            intro other listed
            have different : other.key ≠ field.key := by
              intro same
              exact new (same ▸ List.mem_map_of_mem listed)
            rw [kept other.key different, agree other (List.mem_cons_of_mem _ listed)]
          rw [here]
          show addField nullSafety extraction field value >>= _ =
            addField nullSafety extraction field value >>= _
          cases addField nullSafety extraction field value with
          | error error => rfl
          | ok next => exact inductionHypothesis laterDistinct laterAgree next

/-- In a document that repeats no key, each field of the root finds its value among all members. -/
theorem ofDocument_eq_foldlM {document : Json} {members : List (String × Json)}
    (root : rootMembers document = .ok members) (distinct : (members.map Prod.fst).Nodup)
    (given : String) :
    ofDocument nullSafety given document =
      ((members.map (Field.ofMember nullSafety)).foldlM (lookUpField nullSafety members)
        (start nullSafety (rootName given) members)).map conclude := by
  have keys : ((members.map (Field.ofMember nullSafety)).map Field.key).Nodup := by
    rwa [List.map_map]
  rw [ofDocument, root, ← addFields_eq_foldlM nullSafety keys fun _ _ => rfl]
  show addFields nullSafety _ (members.map (Field.ofMember nullSafety)) members >>= _ = _
  cases addFields nullSafety (start nullSafety (rootName given) members)
    (members.map (Field.ofMember nullSafety)) members <;> rfl

/-- A field finds the sample that its member holds. -/
theorem addField_ofMember (extraction : Extraction) (member : String × Json) :
    addField nullSafety extraction (Field.ofMember nullSafety member) member.2 =
      .ok (match Sample.ofMember? member with
        | some sample => addSample nullSafety extraction sample
        | none => extraction) := by
  obtain ⟨key, value⟩ := member
  cases value with
  | array items =>
      cases items with
      | nil => rfl
      | cons first rest =>
          cases first with
          | array items => cases items <;> rfl
          | _ => rfl
  | _ => rfl

/-- The fields that were read off the members of a document find their samples there. -/
theorem addFields_ofMembers (extraction : Extraction) (members : List (String × Json)) :
    addFields nullSafety extraction (members.map (Field.ofMember nullSafety)) members =
      .ok ((members.filterMap Sample.ofMember?).foldl (addSample nullSafety) extraction) := by
  induction members generalizing extraction with
  | nil => rfl
  | cons member rest inductionHypothesis =>
      have found : Json.takeMember? (Field.ofMember nullSafety member).key (member :: rest) =
          some (member.2, rest) := if_pos rfl
      rw [List.map_cons, addFields, found, List.filterMap_cons]
      show addField nullSafety extraction (Field.ofMember nullSafety member) member.2 >>= _ = _
      rw [addField_ofMember]
      cases Sample.ofMember? member with
      | none => exact inductionHypothesis extraction
      | some sample => exact inductionHypothesis (addSample nullSafety extraction sample)

/-- An extraction fails only for a document without an object. -/
theorem ofDocument_eq (given : String) (document : Json) :
    ofDocument nullSafety given document =
      (rootMembers document).map (ofMembers nullSafety (rootName given)) := by
  rw [ofDocument]
  cases rootMembers document with
  | error error => rfl
  | ok members =>
      have filled := addFields_ofMembers nullSafety (start nullSafety (rootName given) members)
        members
      show addFields nullSafety _ (members.map (Field.ofMember nullSafety)) members >>= _ = _
      rw [filled]
      rfl

end Extraction

end Exemplar
