import Exemplar.Emission
import Exemplar.Proofs.CapitalNames
import Exemplar.Proofs.WrittenRoutines

/-
Distinct types. A language spells different types differently, so the text of a type tells the type
up to references to models that are not generated. Only a model whose name is the text of another
type can be taken for that type. Models are named after keys, and no name is reserved.
-/

namespace Exemplar

namespace FieldType

/-- These types have the same text in every file of a language. -/
def constants : List FieldType :=
  [.primitive .string, .primitive .integer, .primitive .float, .primitive .boolean, .dynamic,
    .object]

end FieldType

namespace Shape

/-- A shape refers to a known model when it is a reference to one of them. -/
def RefersToKnown (known : NameSet) (shape : Shape) : Prop :=
  ∃ model ∈ known, shape = .reference model

/-- A shape that refers to no known model is a list, or its type is a constant one. -/
theorem constant_of_not_refersToKnown {known : NameSet} {shape : Shape}
    (foreign : ¬ shape.RefersToKnown known) :
    (∃ item, shape = .list item) ∨ shape.resolve known ∈ FieldType.constants := by
  cases shape with
  | primitive type => cases type <;> exact .inr (by simp [resolve, FieldType.constants])
  | dynamic => exact .inr (by simp [resolve, FieldType.constants])
  | list item => exact .inl ⟨item, rfl⟩
  | reference model =>
      have unknown : model ∉ known := fun declared => foreign ⟨model, declared, rfl⟩
      rw [resolve_eq_object_iff.mpr ⟨model, unknown, rfl⟩]
      exact .inr (by decide)

end Shape

namespace Language

/-- This function writes the type of a shape in a file that declares the known models. -/
def typeText (language : Language) (known : NameSet) (shape : Shape) : String :=
  language.dialect.type (shape.resolve known)

/-- These are the texts of constant types that do not start with a small letter. -/
def capitalTypes : Language → List String
  | .typeScript => ["Record<string, any>"]
  | .dart => ["String", "Map<String, dynamic>"]
  | .kotlin => ["String", "Int", "Double", "Boolean", "Any", "Map<String, Any?>"]

/-- A text looks like a type of the language when it is the capital text of a constant type or the
text of a list. -/
def SpellsType (language : Language) (text : String) : Prop :=
  text ∈ language.capitalTypes ∨ ∃ item, text = language.dialect.list item

/-- Two types are both numbers of TypeScript, which has only one type of numbers. -/
def BothNumbers (language : Language) (first second : FieldType) : Prop :=
  language = .typeScript ∧ first ∈ [.primitive .integer, .primitive .float] ∧
    second ∈ [.primitive .integer, .primitive .float]

instance (language : Language) (first second : FieldType) :
    Decidable (language.BothNumbers first second) :=
  inferInstanceAs (Decidable (_ ∧ _))

/-- The constant types have different texts, apart from the numbers of TypeScript. -/
theorem eq_of_text_constants (language : Language) :
    ∀ first ∈ FieldType.constants, ∀ second ∈ FieldType.constants,
      language.dialect.type first = language.dialect.type second →
        first = second ∨ language.BothNumbers first second := by
  cases language <;> decide

theorem mem_capitalTypes (language : Language) :
    ∀ type ∈ FieldType.constants, ¬ Naming.StartsSmall (language.dialect.type type) →
      language.dialect.type type ∈ language.capitalTypes := by
  cases language <;> decide

/-- The text of a list tells the text of its items. -/
theorem list_injective (language : Language) :
    Function.Injective language.dialect.list := by
  intro first second same
  cases language with
  | typeScript => exact (String.append_left_inj _).mp same
  | dart => exact (String.append_right_inj _).mp ((String.append_left_inj _).mp same)
  | kotlin => exact (String.append_right_inj _).mp ((String.append_left_inj _).mp same)

/-- No constant type has the text of a list. -/
theorem list_ne_constant (language : Language) (item : String) {type : FieldType}
    (constant : type ∈ FieldType.constants) :
    language.dialect.list item ≠ language.dialect.type type := by
  have bracketed : (item ++ "[]").toList.getLast? = some ']' := by simp
  have listed : ("List<" ++ item ++ ">").toList.head? = some 'L' := by simp
  intro same
  cases language with
  | typeScript =>
      have unbracketed : ∀ other ∈ FieldType.constants,
          (TypeScript.dialect.type other).toList.getLast? ≠ some ']' := by decide
      exact unbracketed type constant (same ▸ bracketed)
  | dart =>
      have unlisted : ∀ other ∈ FieldType.constants,
          (Dart.dialect.type other).toList.head? ≠ some 'L' := by decide
      exact unlisted type constant (same ▸ listed)
  | kotlin =>
      have unlisted : ∀ other ∈ FieldType.constants,
          (Kotlin.dialect.type other).toList.head? ≠ some 'L' := by decide
      exact unlisted type constant (same ▸ listed)

variable {language : Language} {known : NameSet}

theorem typeText_reference {model : String} (declared : model ∈ known) :
    language.typeText known (.reference model) = model := by
  rw [typeText, Shape.resolve, if_pos declared]
  rfl

/-- A name that does not start with a small letter is the text of a shape that refers to no known
model only when it looks like a type of the language. -/
theorem spellsType_of_typeText {shape : Shape} {name : String}
    (foreign : ¬ shape.RefersToKnown known) (text : language.typeText known shape = name)
    (capital : ¬ Naming.StartsSmall name) : language.SpellsType name := by
  rcases Shape.constant_of_not_refersToKnown foreign with ⟨item, rfl⟩ | constant
  · exact .inr ⟨language.typeText known item, text.symm⟩
  · rw [← text] at capital ⊢
    exact .inl (mem_capitalTypes language _ constant capital)

end Language

namespace Shape

/-- Shapes are identified when they are equal, when both are numbers of TypeScript, when both refer
to models that are not known, or when they are lists of identified items. -/
inductive Identified (language : Language) (known : NameSet) : Shape → Shape → Prop
  | same (shape : Shape) : Identified language known shape shape
  | numbers {first second : Primitive} (isTypeScript : language = .typeScript)
      (firstNumber : first ∈ [.integer, .float]) (secondNumber : second ∈ [.integer, .float]) :
      Identified language known (.primitive first) (.primitive second)
  | unknown {first second : String} (firstUnknown : first ∉ known)
      (secondUnknown : second ∉ known) :
      Identified language known (.reference first) (.reference second)
  | list {first second : Shape} (items : Identified language known first second) :
      Identified language known (.list first) (.list second)

/-- Of two shapes one shadows the other when it refers to a known model whose name is the text of
the other, which refers to no known model, or when they are lists of such items. -/
inductive Shadowed (language : Language) (known : NameSet) : Shape → Shape → Prop
  | byFirst {model : String} {other : Shape} (declared : model ∈ known)
      (foreign : ¬ other.RefersToKnown known) (text : language.typeText known other = model) :
      Shadowed language known (.reference model) other
  | bySecond {model : String} {other : Shape} (declared : model ∈ known)
      (foreign : ¬ other.RefersToKnown known) (text : language.typeText known other = model) :
      Shadowed language known other (.reference model)
  | list {first second : Shape} (items : Shadowed language known first second) :
      Shadowed language known (.list first) (.list second)

variable {language : Language} {known : NameSet} {first second : Shape}

/-- Identified shapes have the same text. -/
theorem Identified.typeText_eq (identified : Identified language known first second) :
    language.typeText known first = language.typeText known second := by
  induction identified with
  | same => rfl
  | numbers isTypeScript firstNumber secondNumber =>
      have number {type : Primitive} (listed : type ∈ [Primitive.integer, .float]) :
          Language.typeScript.typeText known (.primitive type) = "number" := by
        cases type with
        | integer => rfl
        | float => rfl
        | _ => exact absurd listed (by decide)
      rw [isTypeScript, number firstNumber, number secondNumber]
  | unknown firstUnknown secondUnknown =>
      simp only [Language.typeText, resolve, if_neg firstUnknown, if_neg secondUnknown]
  | list items inductionHypothesis => exact congrArg language.dialect.list inductionHypothesis

/-- Shapes of which one shadows the other have the same text. -/
theorem Shadowed.typeText_eq (shadowed : Shadowed language known first second) :
    language.typeText known first = language.typeText known second := by
  induction shadowed with
  | byFirst declared foreign text => rw [Language.typeText_reference declared, text]
  | bySecond declared foreign text => rw [Language.typeText_reference declared, text]
  | list items inductionHypothesis => exact congrArg language.dialect.list inductionHypothesis

/-- A model that shadows a type looks like one when no model starts with a small letter. -/
theorem Shadowed.exists_spellsType (shadowed : Shadowed language known first second)
    (capital : ∀ name ∈ known, ¬ Naming.StartsSmall name) :
    ∃ name ∈ known, language.SpellsType name := by
  induction shadowed with
  | byFirst declared foreign text =>
      exact ⟨_, declared, Language.spellsType_of_typeText foreign text (capital _ declared)⟩
  | bySecond declared foreign text =>
      exact ⟨_, declared, Language.spellsType_of_typeText foreign text (capital _ declared)⟩
  | list _ inductionHypothesis => exact inductionHypothesis

/-- Shapes of the same constant type are identified. -/
theorem identified_of_resolve_eq {type : FieldType} (constant : type ∈ FieldType.constants)
    (isFirst : first.resolve known = type) (isSecond : second.resolve known = type) :
    Identified language known first second := by
  cases type with
  | primitive type =>
      rw [resolve_eq_primitive_iff.mp isFirst, resolve_eq_primitive_iff.mp isSecond]
      exact .same _
  | dynamic =>
      rw [resolve_eq_dynamic_iff.mp isFirst, resolve_eq_dynamic_iff.mp isSecond]
      exact .same _
  | object =>
      obtain ⟨firstModel, firstUnknown, rfl⟩ := resolve_eq_object_iff.mp isFirst
      obtain ⟨secondModel, secondUnknown, rfl⟩ := resolve_eq_object_iff.mp isSecond
      exact .unknown firstUnknown secondUnknown
  | model name => simp [FieldType.constants] at constant
  | list item => simp [FieldType.constants] at constant

/-- Shapes whose types are both numbers of TypeScript are identified. -/
theorem identified_of_bothNumbers
    (numbers : language.BothNumbers (first.resolve known) (second.resolve known)) :
    Identified language known first second := by
  have exists_number {shape : Shape}
      (number : shape.resolve known ∈ [FieldType.primitive .integer, .primitive .float]) :
      ∃ type ∈ [Primitive.integer, .float], shape = .primitive type := by
    rcases List.mem_pair.mp number with integer | float
    · exact ⟨.integer, by decide, resolve_eq_primitive_iff.mp integer⟩
    · exact ⟨.float, by decide, resolve_eq_primitive_iff.mp float⟩
  obtain ⟨isTypeScript, firstNumber, secondNumber⟩ := numbers
  obtain ⟨firstType, firstListed, rfl⟩ := exists_number firstNumber
  obtain ⟨secondType, secondListed, rfl⟩ := exists_number secondNumber
  exact .numbers isTypeScript firstListed secondListed

/-- Shapes with the same text are identified, or one of them shadows the other, or both are
lists. -/
theorem cases_of_typeText_eq
    (same : language.typeText known first = language.typeText known second) :
    Identified language known first second ∨ Shadowed language known first second ∨
      ∃ firstItem secondItem, first = .list firstItem ∧ second = .list secondItem := by
  by_cases firstKnown : first.RefersToKnown known
  · obtain ⟨model, declared, rfl⟩ := firstKnown
    rw [Language.typeText_reference declared] at same
    by_cases secondKnown : second.RefersToKnown known
    · obtain ⟨other, otherDeclared, rfl⟩ := secondKnown
      rw [Language.typeText_reference otherDeclared] at same
      exact .inl (same ▸ .same _)
    · -- The second shape spells the name of the first one.
      exact .inr (.inl (.byFirst declared secondKnown same.symm))
  · by_cases secondKnown : second.RefersToKnown known
    · obtain ⟨other, otherDeclared, rfl⟩ := secondKnown
      rw [Language.typeText_reference otherDeclared] at same
      exact .inr (.inl (.bySecond otherDeclared firstKnown same))
    · rcases constant_of_not_refersToKnown firstKnown with ⟨firstItem, rfl⟩ | firstConstant
      · rcases constant_of_not_refersToKnown secondKnown with ⟨secondItem, rfl⟩ | secondConstant
        · exact .inr (.inr ⟨firstItem, secondItem, rfl, rfl⟩)
        · exact absurd same (language.list_ne_constant _ secondConstant)
      · rcases constant_of_not_refersToKnown secondKnown with ⟨secondItem, rfl⟩ | secondConstant
        · exact absurd same.symm (language.list_ne_constant _ firstConstant)
        · rcases language.eq_of_text_constants _ firstConstant _ secondConstant same with
            one | numbers
          · exact .inl (identified_of_resolve_eq secondConstant one rfl)
          · exact .inl (identified_of_bothNumbers numbers)

/-- Two shapes have the same text exactly when they are identified or one of them shadows the
other. -/
theorem typeText_eq_iff :
    language.typeText known first = language.typeText known second ↔
      Identified language known first second ∨ Shadowed language known first second := by
  constructor
  · intro same
    -- Only the levels of lists leave something to compare, so the induction follows them.
    induction first generalizing second with
    | list item inductionHypothesis =>
        rcases cases_of_typeText_eq same with identified | shadowed | ⟨_, other, isItem, rfl⟩
        · exact .inl identified
        · exact .inr shadowed
        · rcases inductionHypothesis (language.list_injective same) with identified | shadowed
          · exact .inl identified.list
          · exact .inr shadowed.list
    | _ =>
        rcases cases_of_typeText_eq same with identified | shadowed | ⟨_, _, isItem, _⟩
        · exact .inl identified
        · exact .inr shadowed
        · cases isItem
  · intro either
    rcases either with identified | shadowed
    · exact identified.typeText_eq
    · exact shadowed.typeText_eq

end Shape

namespace ModelSet

def shapes (set : ModelSet) : List Shape :=
  set.models.flatMap fun model => model.fields.map Field.shape

/-- A set keeps its types apart in a language when only identified shapes have the same text. -/
def KeepsTypesApart (set : ModelSet) (language : Language) : Prop :=
  ∀ first ∈ set.shapes, ∀ second ∈ set.shapes,
    language.typeText set.names first = language.typeText set.names second →
      Shape.Identified language set.names first second

/-- A set tells its types in a language when two shapes have the same text exactly when they are
identified or one of them shadows the other, which takes a model whose name looks like a type. So
the set keeps its types apart when no model has such a name. -/
structure TellsTypes (set : ModelSet) (language : Language) : Prop where
  compares : ∀ first ∈ set.shapes, ∀ second ∈ set.shapes,
    (language.typeText set.names first = language.typeText set.names second ↔
      Shape.Identified language set.names first second ∨
        Shape.Shadowed language set.names first second)
  shadows : ∀ first second, Shape.Shadowed language set.names first second →
    ∃ name ∈ set.names, language.SpellsType name
  apart : (∀ name ∈ set.names, ¬ language.SpellsType name) → set.KeepsTypesApart language

end ModelSet

namespace Extraction

/-- The models of a document tell their types in every language. -/
theorem tells_types {nullSafety : Bool} {given : String} {document : Json}
    {extraction : Extraction} (extracted : ofDocument nullSafety given document = .ok extraction)
    (language : Language) : extraction.models.TellsTypes language := by
  obtain ⟨members, _, rfl⟩ := ofDocument_eq_ok_iff.mp extracted
  have shadows first second (shadowed : Shape.Shadowed language _ first second) :=
    shadowed.exists_spellsType fun _ =>
      @not_startsSmall_of_mem_names nullSafety given _ members
  refine ⟨fun _ _ _ _ => Shape.typeText_eq_iff, shadows, ?_⟩
  intro unspelled first _ second _ same
  rcases Shape.typeText_eq_iff.mp same with identified | shadowed
  · exact identified
  · obtain ⟨name, declared, spells⟩ := shadows first second shadowed
    exact absurd spells (unspelled name declared)

/-- In this document the models of a guitar and of its slots take the names of types. -/
def guitarDocument : Json :=
  .object [("guitar", .object [("string", .integer 6)]), ("title", .string "Blues"),
    ("slots", .object [("seat[]", .integer 1)]), ("seats", .array [.object [("seat", .integer 2)]])]

/-- These are the models of the document. -/
def guitarModels : ModelSet :=
  ⟨[⟨"String", [⟨"string", "string", .primitive .integer, false, false, false⟩]⟩,
      ⟨"Seat[]", [⟨"seat[]", "seat[]", .primitive .integer, false, false, false⟩]⟩,
      ⟨"Seat", [⟨"seat", "seat", .primitive .integer, false, false, false⟩]⟩],
    ⟨"Model", [⟨"guitar", "guitar", .reference "String", false, false, true⟩,
      ⟨"title", "title", .primitive .string, false, false, false⟩,
      ⟨"slots", "slots", .reference "Seat[]", false, false, true⟩,
      ⟨"seats", "seats", .list (.reference "Seat"), false, true, false⟩]⟩⟩

theorem exists_guitarModels :
    ∃ extraction, ofDocument false "Model" guitarDocument = .ok extraction ∧
      extraction.models = guitarModels :=
  ⟨_, rfl, by decide +kernel⟩

/-- The models of the document tell their types. -/
theorem guitarModels_tell_types :
    ∃ extraction, ofDocument false "Model" guitarDocument = .ok extraction ∧
      extraction.models = guitarModels ∧ extraction.models.TellsTypes .dart := by
  obtain ⟨extraction, extracted, models⟩ := exists_guitarModels
  exact ⟨extraction, extracted, models, tells_types extracted .dart⟩

/-- No language keeps the types of the document apart. -/
theorem guitarModels_not_apart :
    (∃ extraction, ofDocument false "Model" guitarDocument = .ok extraction ∧
        extraction.models = guitarModels) ∧
      ¬ guitarModels.KeepsTypesApart .typeScript ∧ ¬ guitarModels.KeepsTypesApart .dart ∧
      ¬ guitarModels.KeepsTypesApart .kotlin := by
  refine ⟨exists_guitarModels, ?_, ?_, ?_⟩
  · intro apart
    cases apart (.reference "Seat[]") (by decide) (.list (.reference "Seat")) (by decide)
      (by decide)
  · intro apart
    cases apart (.reference "String") (by decide) (.primitive .string) (by decide) (by decide)
  · intro apart
    cases apart (.reference "String") (by decide) (.primitive .string) (by decide) (by decide)

end Extraction

end Exemplar
