import Exemplar.Generation
import Exemplar.Proofs.ExtractedModels
import Mathlib.Data.List.Forall2

/-
Alike documents. Alike documents agree in their keys and in the kinds of their values, but not in
the values. The deeper an object stands, the less of it counts: of the root and of the objects that
it holds all keys count, and of every deeper object only the name of its model. Alike documents give
the same models and the same code.
-/

namespace Exemplar

namespace Json

/-- A number without a fractional part is whole. -/
def isWhole : Json → Bool
  | .integer _ => true
  | .float value => value.isIntegral
  | _ => false

/-- The other numbers have a fractional part or are not finite. -/
def isFractional : Json → Bool
  | .float value => !value.isIntegral
  | _ => false

/-- Values below the root are alike when they are of one kind. Of a list only the first item counts,
and of an object only the name of its model. -/
inductive AlikeBelow : Json → Json → Prop where
  | null : AlikeBelow .null .null
  | boolean (first second : Bool) : AlikeBelow (.boolean first) (.boolean second)
  | string (first second : String) : AlikeBelow (.string first) (.string second)
  | whole {first second : Json} (firstWhole : first.isWhole = true)
      (secondWhole : second.isWhole = true) : AlikeBelow first second
  | fractional {first second : Json} (firstFractional : first.isFractional = true)
      (secondFractional : second.isFractional = true) : AlikeBelow first second
  | emptyArray : AlikeBelow (.array []) (.array [])
  | array {first second : Json} (items : AlikeBelow first second)
      (firstRest secondRest : List Json) :
      AlikeBelow (.array (first :: firstRest)) (.array (second :: secondRest))
  | object {first second : List (String × Json)}
      (names : Shape.referenceName first = Shape.referenceName second) :
      AlikeBelow (.object first) (.object second)

/-- The members of two objects correspond when they have the same keys in the same order and alike
values. -/
def Correspond (alike : Json → Json → Prop) (first second : List (String × Json)) : Prop :=
  List.Forall₂ (fun left right => left.1 = right.1 ∧ alike left.2 right.2) first second

/-- Values at the root are alike when the objects that they hold have alike members. -/
inductive AlikeAtRoot : Json → Json → Prop where
  | object {first second : List (String × Json)} (members : Correspond AlikeBelow first second) :
      AlikeAtRoot (.object first) (.object second)
  | array {first second : List (String × Json)} (members : Correspond AlikeBelow first second)
      (firstRest secondRest : List Json) :
      AlikeAtRoot (.array (.object first :: firstRest)) (.array (.object second :: secondRest))
  | other {first second : Json} (noObject : first.heldObject? = none)
      (alike : AlikeBelow first second) : AlikeAtRoot first second

/-- Documents are alike when both are or start with an object and these objects have members that
are alike at the root. -/
def AlikeDocument (first second : Json) : Prop :=
  ∃ firstMembers secondMembers,
    first.heldObject? = some firstMembers ∧ second.heldObject? = some secondMembers ∧
      Correspond AlikeAtRoot firstMembers secondMembers

/-- Whole numbers are integers by their shape. -/
theorem infer_of_isWhole {value : Json} (whole : value.isWhole = true) :
    Shape.infer value = .primitive .integer := by
  cases value with
  | float number =>
      have integral : number.isIntegral = true := whole
      simp [Shape.infer, integral]
  | integer => rfl
  | null => cases whole
  | boolean => cases whole
  | string => cases whole
  | array => cases whole
  | object => cases whole

/-- The other numbers are floats by their shape. -/
theorem infer_of_isFractional {value : Json} (fractional : value.isFractional = true) :
    Shape.infer value = .primitive .float := by
  cases value with
  | float number =>
      have notIntegral : number.isIntegral = false := by simpa [isFractional] using fractional
      simp [Shape.infer, notIntegral]
  | integer => cases fractional
  | null => cases fractional
  | boolean => cases fractional
  | string => cases fractional
  | array => cases fractional
  | object => cases fractional

/-- Alike values below the root have the same shape. -/
theorem AlikeBelow.infer_eq {first second : Json} (alike : AlikeBelow first second) :
    Shape.infer first = Shape.infer second := by
  induction alike with
  | null => rfl
  | boolean => rfl
  | string => rfl
  | whole firstWhole secondWhole =>
      rw [infer_of_isWhole firstWhole, infer_of_isWhole secondWhole]
  | fractional firstFractional secondFractional =>
      rw [infer_of_isFractional firstFractional, infer_of_isFractional secondFractional]
  | emptyArray => rfl
  | array _ _ _ sameItems => rw [Shape.infer, Shape.infer, sameItems]
  | object names => rw [Shape.infer, Shape.infer, names]

/-- Objects with the same keys in the same order have the same name. -/
theorem Correspond.referenceName_eq {alike : Json → Json → Prop}
    {first second : List (String × Json)} (members : Correspond alike first second) :
    Shape.referenceName first = Shape.referenceName second := by
  cases members with
  | nil => rfl
  | @cons left right _ _ same _ =>
      obtain ⟨key, value⟩ := left
      obtain ⟨_, other⟩ := right
      obtain ⟨rfl, _⟩ := same
      rfl

/-- Alike values at the root have the same shape. -/
theorem AlikeAtRoot.infer_eq {first second : Json} (alike : AlikeAtRoot first second) :
    Shape.infer first = Shape.infer second := by
  cases alike with
  | object members => rw [Shape.infer, Shape.infer, members.referenceName_eq]
  | array members =>
      rw [Shape.infer, Shape.infer, Shape.infer, Shape.infer, members.referenceName_eq]
  | other _ alike => exact alike.infer_eq

/-- The shape of a value tells whether it holds an object. -/
theorem heldObject?_eq_none_iff {value : Json} :
    value.heldObject? = none ↔
      (Shape.infer value).isReference = false ∧
        (Shape.infer value).isListOfReferences = false := by
  cases value with
  | array items =>
      cases items with
      | nil => simp [heldObject?, Shape.infer, Shape.isReference]
      | cons first rest =>
          cases first with
          | array items => cases items <;> simp [heldObject?, Shape.infer, Shape.isReference]
          | _ => simp [heldObject?, Shape.infer, Shape.isReference]
  | _ => simp [heldObject?, Shape.infer, Shape.isReference, Shape.isListOfReferences, Shape.item?]

/-- Alike values at the root hold objects with alike members, or no objects. -/
theorem AlikeAtRoot.held {first second : Json} (alike : AlikeAtRoot first second) :
    Option.Rel (Correspond AlikeBelow) first.heldObject? second.heldObject? := by
  cases alike with
  | object members => exact .some members
  | array members => exact .some members
  | other noObject alike =>
      have neither : second.heldObject? = none := by
        rw [heldObject?_eq_none_iff, ← alike.infer_eq, ← heldObject?_eq_none_iff]
        exact noObject
      rw [noObject, neither]
      exact .none

end Json

/-- The field of a member depends only on its key and its shape. -/
theorem Field.ofMember_eq_of_infer_eq (nullSafety : Bool) {first second : String × Json}
    (keys : first.1 = second.1) (shapes : Shape.infer first.2 = Shape.infer second.2) :
    Field.ofMember nullSafety first = Field.ofMember nullSafety second := by
  have nullable (member : String × Json) : (Field.ofMember nullSafety member).nullable =
      if Shape.infer member.2 = .dynamic then true else nullSafety := by
    obtain ⟨key, value⟩ := member
    cases value <;> simp [Field.ofMember, Shape.infer_eq_dynamic_iff]
  have sameNullable : (Field.ofMember nullSafety first).nullable =
      (Field.ofMember nullSafety second).nullable := by
    rw [nullable, nullable, shapes]
  simp only [Field.ofMember] at sameNullable ⊢
  rw [keys, shapes, sameNullable]

/-- Objects with alike members have the same model. -/
theorem Model.ofMembers_eq_of_correspond (nullSafety : Bool) (name : String)
    {alike : Json → Json → Prop} {first second : List (String × Json)}
    (shapes : ∀ left right, alike left right → Shape.infer left = Shape.infer right)
    (members : Json.Correspond alike first second) :
    Model.ofMembers nullSafety name first = Model.ofMembers nullSafety name second := by
  have fields : first.map (Field.ofMember nullSafety) = second.map (Field.ofMember nullSafety) := by
    induction members with
    | nil => rfl
    | cons same _ inductionHypothesis =>
        rw [List.map_cons, List.map_cons, inductionHypothesis,
          Field.ofMember_eq_of_infer_eq nullSafety same.1 (shapes _ _ same.2)]
  rw [Model.ofMembers, Model.ofMembers, fields]

namespace Extraction

/-- Samples with the same key and alike members add the same to an extraction. -/
theorem addSample_eq_of_correspond (nullSafety : Bool) (extraction : Extraction) (key : String)
    {first second : List (String × Json)}
    (members : Json.Correspond Json.AlikeBelow first second) :
    addSample nullSafety extraction ⟨key, first⟩ =
      addSample nullSafety extraction ⟨key, second⟩ := by
  have names : Sample.modelName ⟨key, first⟩ = Sample.modelName ⟨key, second⟩ :=
    members.referenceName_eq
  have models := Model.ofMembers_eq_of_correspond nullSafety (Sample.modelName ⟨key, second⟩)
    (fun _ _ => Json.AlikeBelow.infer_eq) members
  simp only [addSample, add, names, models]

/-- The samples of alike documents add the same to an extraction. -/
theorem foldl_addSample_eq_of_correspond (nullSafety : Bool) (extraction : Extraction)
    {first second : List (String × Json)}
    (members : Json.Correspond Json.AlikeAtRoot first second) :
    (first.filterMap Sample.ofMember?).foldl (addSample nullSafety) extraction =
      (second.filterMap Sample.ofMember?).foldl (addSample nullSafety) extraction := by
  induction members generalizing extraction with
  | nil => rfl
  | @cons left right _ _ same _ inductionHypothesis =>
      obtain ⟨key, value⟩ := left
      obtain ⟨_, other⟩ := right
      obtain ⟨rfl, alike⟩ := same
      have held := Json.AlikeAtRoot.held alike
      rw [List.filterMap_cons, List.filterMap_cons, Sample.ofMember?_eq, Sample.ofMember?_eq]
      dsimp only
      -- Both members add a sample or neither does, so the two runs stay in step.
      revert held
      cases value.heldObject? with
      | none =>
          cases other.heldObject? with
          | none => exact fun _ => inductionHypothesis extraction
          | some => exact fun held => nomatch held
      | some object =>
          cases other.heldObject? with
          | none => exact fun held => nomatch held
          | some otherObject =>
              rintro (objects | _)
              simp only [Option.map_some, List.foldl_cons,
                addSample_eq_of_correspond nullSafety extraction key objects]
              exact inductionHypothesis _

/-- Alike members of the root give the same extraction. -/
theorem ofMembers_eq_of_correspond (nullSafety : Bool) (name : String)
    {first second : List (String × Json)}
    (members : Json.Correspond Json.AlikeAtRoot first second) :
    ofMembers nullSafety name first = ofMembers nullSafety name second := by
  have root := Model.ofMembers_eq_of_correspond nullSafety name
    (fun _ _ => Json.AlikeAtRoot.infer_eq) members
  unfold ofMembers start
  rw [root, foldl_addSample_eq_of_correspond nullSafety _ members]

end Extraction

namespace Generation

/-- A generation depends on its document through the extraction alone. -/
theorem run_eq_of_ofDocument_eq {first second : Json}
    (extractions : ∀ nullSafety given,
      Extraction.ofDocument nullSafety given first = Extraction.ofDocument nullSafety given second)
    (language : Json) (given : String) (options : Options) :
    run language first given options = run language second given options := by
  simp only [run, inLanguage, extractions]

/-- Alike documents give the same models, the same notices and the same code or error. -/
theorem eq_of_alikeDocument {first second : Json} (alike : first.AlikeDocument second) :
    (∀ nullSafety given, ∃ extraction,
      Extraction.ofDocument nullSafety given first = .ok extraction ∧
        Extraction.ofDocument nullSafety given second = .ok extraction) ∧
      ∀ language given options,
        run language first given options = run language second given options := by
  obtain ⟨firstMembers, secondMembers, firstRoot, secondRoot, members⟩ := alike
  have extracted (nullSafety : Bool) (given : String) :
      Extraction.ofDocument nullSafety given first =
          .ok (Extraction.ofMembers nullSafety (Extraction.rootName given) firstMembers) ∧
        Extraction.ofDocument nullSafety given second =
          .ok (Extraction.ofMembers nullSafety (Extraction.rootName given) firstMembers) := by
    have same := Extraction.ofMembers_eq_of_correspond nullSafety
      (Extraction.rootName given) members
    exact ⟨Extraction.ofDocument_eq_ok_iff.mpr ⟨_, firstRoot, rfl⟩,
      Extraction.ofDocument_eq_ok_iff.mpr ⟨_, secondRoot, same.symm⟩⟩
  constructor
  · intro nullSafety given
    exact ⟨_, extracted nullSafety given⟩
  · apply run_eq_of_ofDocument_eq
    intro nullSafety given
    rw [(extracted nullSafety given).1, (extracted nullSafety given).2]

/-- This document lists a user with a nested record and two further items. -/
def listedUser : Json :=
  .array
    [.object
      [("user", .object [("name", .string "Ada"), ("scores", .array [.integer 1, .null])]),
       ("record", .array [.object [("entry", .object [("key", .integer 1), ("pin", .integer 5)])],
         .boolean true]),
       ("limit", .integer 3)],
     .string "later"]

/-- This document is a user that agrees with the listed one only in keys and kinds of values. -/
def singleUser : Json :=
  .object
    [("user", .object [("name", .string "Grace"), ("scores", .array [.float (.finite false 1 0)])]),
     ("record", .array [.object [("entry", .object [("key", .null)])]]),
     ("limit", .integer 70000)]

/-- Two users that differ in all their data give the same code. -/
theorem listedUser_alike_singleUser :
    listedUser.AlikeDocument singleUser ∧
      (∀ nullSafety given, ∃ extraction,
        Extraction.ofDocument nullSafety given listedUser = .ok extraction ∧
          Extraction.ofDocument nullSafety given singleUser = .ok extraction) ∧
      ∀ language given options,
        run language listedUser given options = run language singleUser given options := by
  have user : Json.Correspond Json.AlikeBelow
      [("name", .string "Ada"), ("scores", .array [.integer 1, .null])]
      [("name", .string "Grace"), ("scores", .array [.float (.finite false 1 0)])] :=
    .cons ⟨rfl, .string _ _⟩ (.cons ⟨rfl, .array (.whole rfl rfl) _ _⟩ .nil)
  have record : Json.Correspond Json.AlikeBelow
      [("entry", .object [("key", .integer 1), ("pin", .integer 5)])]
      [("entry", .object [("key", .null)])] :=
    .cons ⟨rfl, .object rfl⟩ .nil
  have alike : listedUser.AlikeDocument singleUser :=
    ⟨_, _, rfl, rfl, .cons ⟨rfl, .object user⟩ (.cons ⟨rfl, .array record _ _⟩
      (.cons ⟨rfl, .other rfl (.whole rfl rfl)⟩ .nil))⟩
  exact ⟨alike, eq_of_alikeDocument alike⟩

end Generation

end Exemplar
