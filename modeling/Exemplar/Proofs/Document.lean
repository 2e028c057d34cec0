import Exemplar.Proofs.SampleLookups
import Mathlib.Data.List.Nodup

namespace Exemplar.Json

def keys (members : List (String × Json)) : List String :=
  members.map Prod.fst

/-- A well-formed value repeats no key in any of its objects. -/
inductive WellFormed : Json → Prop where
  | null : WellFormed .null
  | boolean (value : Bool) : WellFormed (.boolean value)
  | integer (value : Int) : WellFormed (.integer value)
  | float (value : Binary64) : WellFormed (.float value)
  | string (value : String) : WellFormed (.string value)
  | array {items : List Json} (each : ∀ item ∈ items, WellFormed item) : WellFormed (.array items)
  | object {members : List (String × Json)} (distinct : (keys members).Nodup)
      (each : ∀ member ∈ members, WellFormed member.2) : WellFormed (.object members)

mutual

/-- This function checks that no object in a value repeats a key. -/
def checkWellFormed : Json → Bool
  | .array items => checkItems items
  | .object members => decide (keys members).Nodup && checkMembers members
  | _ => true

def checkItems : List Json → Bool
  | [] => true
  | first :: rest => checkWellFormed first && checkItems rest

def checkMembers : List (String × Json) → Bool
  | [] => true
  | (_, value) :: rest => checkWellFormed value && checkMembers rest

end

theorem checkItems_iff {items : List Json} :
    checkItems items = true ↔ ∀ item ∈ items, item.checkWellFormed = true := by
  induction items with
  | nil => simp [checkItems]
  | cons first rest inductionHypothesis => simp [checkItems, inductionHypothesis]

/-- Checking the values of an object checks each of them. -/
theorem checkMembers_iff {members : List (String × Json)} :
    checkMembers members = true ↔ ∀ member ∈ members, member.2.checkWellFormed = true := by
  induction members with
  | nil => simp [checkMembers]
  | cons first rest inductionHypothesis =>
      obtain ⟨key, value⟩ := first
      simp [checkMembers, inductionHypothesis]

/-- A value that passes the check is well-formed. -/
theorem wellFormed_of_checkWellFormed : (value : Json) → value.checkWellFormed = true →
    value.WellFormed
  | .null, _ => .null
  | .boolean value, _ => .boolean value
  | .integer value, _ => .integer value
  | .float value, _ => .float value
  | .string value, _ => .string value
  | .array items, checked => .array fun item member =>
      wellFormed_of_checkWellFormed item (checkItems_iff.mp checked item member)
  | .object members, checked =>
      have parts := Bool.and_eq_true_iff.mp checked
      .object (of_decide_eq_true parts.1) fun member present =>
        wellFormed_of_checkWellFormed member.2 (checkMembers_iff.mp parts.2 member present)
  termination_by value => sizeOf value
  decreasing_by
    · have smaller := List.sizeOf_lt_of_mem member
      simp only [array.sizeOf_spec]
      omega
    · have smaller := List.sizeOf_lt_of_mem present
      obtain ⟨key, value⟩ := member
      simp only [object.sizeOf_spec, Prod.mk.sizeOf_spec] at smaller ⊢
      omega

/-- The check decides whether a value is well-formed. -/
theorem checkWellFormed_iff {value : Json} : value.checkWellFormed = true ↔ value.WellFormed := by
  constructor
  · exact wellFormed_of_checkWellFormed value
  · intro wellFormed
    induction wellFormed with
    | array _ inductionHypothesis => exact checkItems_iff.mpr inductionHypothesis
    | object distinct _ inductionHypothesis =>
        exact Bool.and_eq_true_iff.mpr
          ⟨decide_eq_true distinct, checkMembers_iff.mpr inductionHypothesis⟩
    | _ => rfl

instance : DecidablePred WellFormed := fun _ =>
  decidable_of_iff _ checkWellFormed_iff

/-- A value holds an object directly or as the first item of a list. -/
def heldObject? : Json → Option (List (String × Json))
  | .object members => some members
  | .array (.object members :: _) => some members
  | _ => none

/-- The samples of a model are the objects held by the members of the root that the model is named
after, in the order of the root. -/
def samplesNamed (name : String) (members : List (String × Json)) :
    List (List (String × Json)) :=
  (members.filterMap fun member => heldObject? member.2).filter fun sample =>
    Shape.referenceName sample = name

/-- The root model is read off the root object, and a nested model off the samples of its name. -/
inductive ReadOff (rootName : String) (members : List (String × Json)) :
    String → List (List (String × Json)) → Prop where
  | root : ReadOff rootName members rootName [members]
  | nested {name : String} (sampled : samplesNamed name members ≠ []) :
      ReadOff rootName members name (samplesNamed name members)

/-- A value that holds an object is this object, or a list that starts with it. -/
theorem eq_of_heldObject? {value : Json} {members : List (String × Json)}
    (held : value.heldObject? = some members) :
    value = .object members ∨ ∃ rest, value = .array (.object members :: rest) := by
  unfold heldObject? at held
  split at held
  · exact .inl (congrArg Json.object (Option.some.inj held))
  next first rest => exact .inr ⟨rest, by rw [Option.some.inj held]⟩
  · cases held

/-- A held object is well-formed. -/
theorem WellFormed.object_held {value : Json} {members : List (String × Json)}
    (wellFormed : value.WellFormed) (held : value.heldObject? = some members) :
    (Json.object members).WellFormed := by
  rcases eq_of_heldObject? held with rfl | ⟨rest, rfl⟩
  · exact wellFormed
  · cases wellFormed with
    | array each => exact each _ List.mem_cons_self

theorem WellFormed.distinct {members : List (String × Json)}
    (wellFormed : (Json.object members).WellFormed) : (keys members).Nodup := by
  cases wellFormed with
  | object distinct => exact distinct

theorem WellFormed.object_member {members object : List (String × Json)} {member : String × Json}
    (wellFormed : (Json.object members).WellFormed) (present : member ∈ members)
    (held : heldObject? member.2 = some object) : (Json.object object).WellFormed := by
  cases wellFormed with
  | object _ each => exact (each member present).object_held held

/-- The samples of a model are held by members of the root and named as the model. -/
theorem mem_samplesNamed {name : String} {members sample : List (String × Json)} :
    sample ∈ samplesNamed name members ↔
      (∃ member ∈ members, heldObject? member.2 = some sample) ∧
        Shape.referenceName sample = name := by
  simp [samplesNamed]

/-- The objects that a model is read off have distinct keys. -/
theorem ReadOff.distinct {rootName name : String} {members : List (String × Json)}
    {sources : List (List (String × Json))} (readOff : ReadOff rootName members name sources)
    (wellFormed : (Json.object members).WellFormed) :
    ∀ source ∈ sources, (keys source).Nodup := by
  cases readOff with
  | root => simpa using wellFormed.distinct
  | nested =>
      intro sample sampled
      obtain ⟨⟨member, present, held⟩, _⟩ := mem_samplesNamed.mp sampled
      exact (wellFormed.object_member present held).distinct

/-- A key has a value exactly when it is one of the keys. -/
theorem member?_eq_none_iff {key : String} {members : List (String × Json)} :
    member? key members = none ↔ key ∉ keys members := by
  induction members with
  | nil => simp [member?, keys]
  | cons first rest inductionHypothesis =>
      unfold member?
      split
      · next same => simp [keys, same]
      · next different =>
          rw [inductionHypothesis]
          simp [keys, Ne.symm different]

/-- The value that a key has belongs to a member. -/
theorem mem_of_member? {key : String} {value : Json} {members : List (String × Json)}
    (found : member? key members = some value) : (key, value) ∈ members := by
  induction members with
  | nil => cases found
  | cons first rest inductionHypothesis =>
      unfold member? at found
      split at found
      · next same =>
          obtain rfl := Option.some.inj found
          rw [← same]
          exact List.mem_cons_self
      · exact List.mem_cons_of_mem _ (inductionHypothesis found)

/-- A key that no other member repeats has the value of its member. -/
theorem member?_of_mem {key : String} {value : Json} {members : List (String × Json)}
    (distinct : (keys members).Nodup) (member : (key, value) ∈ members) :
    member? key members = some value := by
  induction members with
  | nil => cases member
  | cons first rest inductionHypothesis =>
      obtain ⟨fresh, restDistinct⟩ := List.nodup_cons.mp distinct
      unfold member?
      rcases List.mem_cons.mp member with same | later
      · rw [← same, if_pos rfl]
      · have different : first.1 ≠ key := by
          intro same
          exact fresh (same ▸ List.mem_map_of_mem later)
        rw [if_neg different]
        exact inductionHypothesis restDistinct later

end Exemplar.Json
