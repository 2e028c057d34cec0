import Exemplar.Proofs.ExtractedModels
import Mathlib.Data.List.SplitBy

namespace Exemplar

/-- What is in joined parts is in the separator or in one of the parts. -/
theorem mem_of_mem_intercalate {α : Type} {item : α} {separator : List α} {parts : List (List α)}
    (member : item ∈ separator.intercalate parts) :
    item ∈ separator ∨ ∃ part ∈ parts, item ∈ part := by
  induction parts with
  | nil => cases member
  | cons first rest inductionHypothesis =>
      cases rest with
      | nil =>
          rw [List.intercalate_singleton] at member
          exact .inr ⟨first, List.mem_cons_self, member⟩
      | cons next later =>
          rw [List.intercalate_cons_cons, List.mem_append, List.mem_append] at member
          rcases member with (inFirst | between) | inRest
          · exact .inr ⟨first, List.mem_cons_self, inFirst⟩
          · exact .inl between
          · exact (inductionHypothesis inRest).imp_right fun ⟨part, listed, within⟩ =>
              ⟨part, List.mem_cons_of_mem _ listed, within⟩

namespace Naming

/-- The characters of a word are ASCII letters, digits and the low line. -/
def isWordCharacter (character : Char) : Bool :=
  character.isAlphanum || character == '_'

/-- A plain text starts with a letter and goes on with characters of a word. -/
def isPlainText : List Char → Bool
  | [] => false
  | first :: rest => first.isAlpha && rest.all isWordCharacter

/-- A plain name is an ASCII letter followed by ASCII letters, digits and low lines. -/
def IsPlain (name : String) : Prop :=
  isPlainText name.toList = true

instance (name : String) : Decidable (IsPlain name) :=
  inferInstanceAs (Decidable (_ = true))

theorem isWordCharacter_of_isAlpha {character : Char} (letter : character.isAlpha = true) :
    isWordCharacter character = true := by
  simp [isWordCharacter, Char.isAlphanum, letter]

theorem exists_cons_of_isPlainText {text : List Char} (plain : isPlainText text = true) :
    ∃ first rest, text = first :: rest ∧ first.isAlpha = true ∧
      rest.all isWordCharacter = true := by
  cases text with
  | nil => cases plain
  | cons first rest => exact ⟨first, rest, rfl, Bool.and_eq_true_iff.mp plain⟩

theorem all_of_isPlainText {text : List Char} (plain : isPlainText text = true) :
    text.all isWordCharacter = true := by
  obtain ⟨first, rest, rfl, letter, word⟩ := exists_cons_of_isPlainText plain
  simpa [isWordCharacter_of_isAlpha letter] using word

theorem isPlainText_append {text later : List Char} (plain : isPlainText text = true)
    (word : later.all isWordCharacter = true) : isPlainText (text ++ later) = true := by
  obtain ⟨first, rest, rfl, letter, within⟩ := exists_cons_of_isPlainText plain
  rw [List.cons_append, isPlainText, letter, List.all_append, within, word]
  rfl

/-- The characters of a word are ASCII characters. -/
theorem exists_ascii_of_isWordCharacter {character : Char}
    (word : isWordCharacter character = true) : ∃ code < 0x80, Char.ofNat code = character := by
  refine ⟨character.toNat, ?_, Char.ofNat_toNat character⟩
  have below {value : UInt32} {last : Char} (within : value ≤ last.val)
      (ascii : last.toNat < 0x80) : value.toNat < 0x80 :=
    Nat.lt_of_le_of_lt (UInt32.le_iff_toNat_le.mp within) ascii
  rcases Bool.or_eq_true_iff.mp word with alphanumeric | lowLine
  · rcases Bool.or_eq_true_iff.mp alphanumeric with letter | digit
    · rcases Bool.or_eq_true_iff.mp letter with capital | small
      · exact below (of_decide_eq_true capital).2 (by decide)
      · exact below (of_decide_eq_true (Bool.and_eq_true_iff.mp small).2) (by decide)
    · exact below (of_decide_eq_true (Bool.and_eq_true_iff.mp digit).2) (by decide)
  · rw [eq_of_beq lowLine]
    decide

/-- The characters of a word keep their kind in upper and lower case, and letters stay letters. -/
theorem forms_of_isWordCharacter {character : Char} (word : isWordCharacter character = true) :
    (Unicode.upperForm character).all isWordCharacter = true ∧
      (Unicode.lowerForm character).all isWordCharacter = true ∧
      (character.isAlpha = true → isPlainText (Unicode.upperForm character) = true ∧
        isPlainText (Unicode.lowerForm character) = true) := by
  obtain ⟨code, isAscii, rfl⟩ := exists_ascii_of_isWordCharacter word
  revert code
  decide +kernel

/-- The deletion of separators keeps the characters of a word. -/
theorem all_collapseSeparators {text : List Char} (word : text.all isWordCharacter = true) :
    (collapseSeparators text).all isWordCharacter = true := by
  induction text using collapseSeparators.induct with
  | case1 separator next rest deleted inductionHypothesis =>
      rw [List.all_cons, List.all_cons, Bool.and_eq_true, Bool.and_eq_true] at word
      rw [collapseSeparators, if_pos deleted, List.all_append,
        (forms_of_isWordCharacter word.2.1).1, inductionHypothesis word.2.2]
      rfl
  | case2 separator next rest kept inductionHypothesis =>
      rw [List.all_cons, Bool.and_eq_true] at word
      rw [collapseSeparators, if_neg kept, List.all_cons, word.1, inductionHypothesis word.2]
      rfl
  | case3 last => exact word
  | case4 => rfl

/-- A plain key gives a plain name in PascalCase. -/
theorem isPlain_pascalCase {key : String} (plain : IsPlain key) : IsPlain (pascalCase key) := by
  obtain ⟨first, rest, characters, letter, word⟩ := exists_cons_of_isPlainText plain
  obtain ⟨_, _, forms⟩ := forms_of_isWordCharacter (isWordCharacter_of_isAlpha letter)
  rw [IsPlain, pascalCase, String.toList_ofList, characters, pascal]
  exact isPlainText_append (forms letter).1 (all_collapseSeparators word)

/-- A plain key gives a plain name in camelCase. -/
theorem isPlain_camelCase {key : String} (plain : IsPlain key) : IsPlain (camelCase key) := by
  obtain ⟨first, rest, characters, letter, word⟩ := exists_cons_of_isPlainText plain
  obtain ⟨_, _, forms⟩ := forms_of_isWordCharacter (isWordCharacter_of_isAlpha letter)
  rw [IsPlain, camelCase, String.toList_ofList, characters, camel]
  exact isPlainText_append (forms letter).2 (all_collapseSeparators word)

/-- A text of characters of a word stays one in lower case. -/
theorem all_lowerAfter {text : List Char} (word : text.all isWordCharacter = true)
    (before : List Char) : (Unicode.lowerAfter before text).all isWordCharacter = true := by
  induction text generalizing before with
  | nil => rfl
  | cons first rest inductionHypothesis =>
      rw [List.all_cons, Bool.and_eq_true] at word
      have notSigma : first ≠ 'Σ' := by
        rintro rfl
        exact absurd word.1 (by decide)
      simp only [Unicode.lowerAfter, notSigma, false_and, if_false]
      rw [List.all_append, (forms_of_isWordCharacter word.1).2.1, inductionHypothesis word.2]
      rfl

/-- A plain name in snake_case has only characters of a word. -/
theorem all_snake {text : List Char} (word : text.all isWordCharacter = true) :
    (snake text).all isWordCharacter = true := by
  have lowered : ∀ group ∈ (words text).map Unicode.lower, group.all isWordCharacter = true := by
    intro group member
    obtain ⟨source, listed, rfl⟩ := List.mem_map.mp member
    apply all_lowerAfter
    have inText : ∀ character ∈ source, character ∈ text := by
      intro character present
      rw [← List.flatten_splitBy sameWord text]
      exact List.mem_flatten.mpr ⟨source, (List.mem_filter.mp listed).1, present⟩
    rw [List.all_eq_true] at word ⊢
    exact fun character present => word character (inText character present)
  rw [snake]
  split
  · exact all_lowerAfter word []
  · rw [List.all_eq_true]
    intro character present
    rcases mem_of_mem_intercalate present with separator | ⟨group, listed, within⟩
    · rw [List.mem_singleton.mp separator]
      decide
    · exact List.all_eq_true.mp (lowered group listed) character within

end Naming

namespace Json

/-- Each key of a value has a property, at every depth. -/
inductive EachKey (property : String → Prop) : Json → Prop where
  | null : EachKey property .null
  | boolean (value : Bool) : EachKey property (.boolean value)
  | integer (value : Int) : EachKey property (.integer value)
  | float (value : Binary64) : EachKey property (.float value)
  | string (value : String) : EachKey property (.string value)
  | array {items : List Json} (each : ∀ item ∈ items, EachKey property item) :
      EachKey property (.array items)
  | object {members : List (String × Json)} (keys : ∀ member ∈ members, property member.1)
      (each : ∀ member ∈ members, EachKey property member.2) : EachKey property (.object members)

variable {property : String → Prop}

/-- The keys of a held object have the property. -/
theorem EachKey.object_held {value : Json} {members : List (String × Json)}
    (keys : value.EachKey property) (held : value.heldObject? = some members) :
    (Json.object members).EachKey property := by
  rcases eq_of_heldObject? held with rfl | ⟨rest, rfl⟩
  · exact keys
  · cases keys with
    | array each => exact each _ List.mem_cons_self

theorem EachKey.object_member {members object : List (String × Json)} {member : String × Json}
    (keys : (Json.object members).EachKey property) (present : member ∈ members)
    (held : heldObject? member.2 = some object) : (Json.object object).EachKey property := by
  cases keys with
  | object _ each => exact (each member present).object_held held

theorem EachKey.keys {members : List (String × Json)}
    (each : (Json.object members).EachKey property) : ∀ member ∈ members, property member.1 := by
  cases each with
  | object keys _ => exact keys

end Json

/-- A plain field has a plain name and a plain key. -/
structure Field.IsPlain (field : Field) : Prop where
  name : Naming.IsPlain field.name
  key : Naming.IsPlain field.key

namespace Model

/-- A plain model has a plain name and plain fields. -/
structure IsPlain (model : Model) : Prop where
  name : Naming.IsPlain model.name
  fields : ∀ field ∈ model.fields, field.IsPlain

/-- A model read off plain keys is plain if its name is. -/
theorem isPlain_ofMembers {nullSafety : Bool} {name : String} {members : List (String × Json)}
    (named : Naming.IsPlain name) (keys : ∀ member ∈ members, Naming.IsPlain member.1) :
    (ofMembers nullSafety name members).IsPlain where
  name := named
  fields := by
    intro field member
    obtain ⟨source, present, rfl⟩ := List.mem_map.mp member
    exact ⟨Naming.isPlain_camelCase (keys source present), keys source present⟩

/-- A field stays plain when another sample is merged into it. -/
theorem isPlain_mergeField (other : Model) {field : Field} (plain : field.IsPlain) :
    (mergeField other field).IsPlain := by
  unfold mergeField
  split
  · exact ⟨plain.name, plain.key⟩
  · split
    · exact ⟨plain.name, plain.key⟩
    · exact plain

/-- A plain model stays plain when another one is merged into it. -/
theorem IsPlain.merge {model other : Model} (plain : model.IsPlain) (otherPlain : other.IsPlain) :
    (model.merge other).IsPlain where
  name := plain.name
  fields := by
    intro field present
    rcases List.mem_append.mp present with known | new
    · obtain ⟨earlier, member, rfl⟩ := List.mem_map.mp known
      exact isPlain_mergeField other (plain.fields earlier member)
    · obtain ⟨added, member, rfl⟩ := List.mem_map.mp new
      have addedPlain := otherPlain.fields added (List.mem_filter.mp member).1
      exact ⟨addedPlain.name, addedPlain.key⟩

end Model

/-- The name of an object with plain keys is plain. -/
theorem Shape.isPlain_referenceName {members : List (String × Json)}
    (keys : ∀ member ∈ members, Naming.IsPlain member.1) :
    Naming.IsPlain (referenceName members) := by
  rcases referenceName_cases members with unnamed | ⟨member, present, _, ofKey⟩
  · rw [unnamed]
    decide
  · rw [ofKey]
    exact Naming.isPlain_pascalCase (keys member present)

namespace Extraction

/-- A plain name gives the root model a plain name. -/
theorem isPlain_rootName {given : String} (plain : Naming.IsPlain given) :
    Naming.IsPlain (rootName given) := by
  rcases rootName_cases given with unnamed | ⟨_, ofGiven⟩
  · rw [unnamed]
    decide
  · rw [ofGiven]
    exact Naming.isPlain_pascalCase plain

/-- All models of a document with plain keys are plain. -/
theorem isPlain_of_mem_models {nullSafety : Bool} {given : String} {document : Json}
    {extraction : Extraction} (named : Naming.IsPlain given)
    (keys : document.EachKey Naming.IsPlain)
    (extracted : ofDocument nullSafety given document = .ok extraction) :
    ∀ model ∈ extraction.models.models, model.IsPlain := by
  obtain ⟨members, root, rfl⟩ := ofDocument_eq_ok_iff.mp extracted
  have rootKeys := keys.object_held root
  refine invariant_ofMembers (fun _ _ => Model.IsPlain.merge) ?_ ?_
  · exact Model.isPlain_ofMembers (isPlain_rootName named) rootKeys.keys
  · intro sample sampled
    obtain ⟨member, present, found⟩ := List.mem_filterMap.mp sampled
    rw [Sample.ofMember?_eq] at found
    obtain ⟨object, held, rfl⟩ := Option.map_eq_some_iff.mp found
    have sampleKeys := (rootKeys.object_member present held).keys
    exact Model.isPlain_ofMembers (Shape.isPlain_referenceName sampleKeys) sampleKeys

end Extraction

end Exemplar
