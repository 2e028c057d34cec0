import Exemplar.Emission
import Exemplar.Proofs.CoherentModels
import Exemplar.Proofs.TemplateLines
import Exemplar.Rendering

namespace Exemplar

/-- Options have a style when the settings read off them do. -/
theorem Options.hasStyle_iff {options : Options} {style : Style} :
    options.hasStyle style = true ↔ options.settings.style = some style := by
  show options.serializationStyle.isText style.name = true ↔ options.style? = some style
  rw [style?]
  cases options.serializationStyle with
  | string name =>
      have named : Style.ofName? style.name = some style := by cases style <;> decide
      simp only [Json.isText, beq_iff_eq]
      constructor
      · intro same
        rw [same, named]
      · intro found
        rw [Style.ofName?] at found
        have same := List.find?_some found
        exact (beq_iff_eq.mp same).symm
  | _ => simp [Json.isText]

namespace Shape

variable {known : NameSet}

/-- A reference names a model or any object. -/
theorem resolve_reference (known : NameSet) (model : String) :
    (reference model).resolve known = .model model ∨ (reference model).resolve known = .object := by
  rw [resolve]
  by_cases member : model ∈ known
  · exact .inl (if_pos member)
  · exact .inr (if_neg member)

theorem knownModel?_eq (known : NameSet) (shape : Shape) :
    shape.knownModel? known = (shape.resolve known).directModel? := by
  cases shape with
  | reference model =>
      rw [knownModel?, resolve]
      by_cases member : model ∈ known
      · simp [isReference, name, member, FieldType.directModel?]
      · simp [name, member, FieldType.directModel?]
  | _ => rfl

theorem heldModel?_eq (known : NameSet) (shape : Shape) :
    shape.heldModel? known = (shape.resolve known).heldModel? := by
  rw [heldModel?, knownModel?_eq]
  cases shape with
  | list item => exact knownModel?_eq known item
  | reference model =>
      rcases resolve_reference known model with resolved | resolved
      · rw [resolved]
        rfl
      · rw [resolved]
        rfl
  | _ => rfl

end Shape

namespace Vocabulary

/-- A vocabulary spells a dialect when it has an entry for each of its words. -/
structure Spells (vocabulary : Vocabulary) (dialect : Dialect) : Prop where
  primitive : ∀ type : Primitive,
    vocabulary.types.lookup type.name = some (dialect.primitive type)
  dynamic : vocabulary.dynamic = dialect.dynamic
  object : vocabulary.object = dialect.object
  list : vocabulary.list = dialect.list
  zero : ∀ type : Primitive,
    vocabulary.zeros.lookup (dialect.primitive type) = some (dialect.initializer (.zero type))
  emptyObject : vocabulary.emptyObject = dialect.initializer .emptyObject
  emptyList : vocabulary.emptyList = dialect.initializer .emptyList
  fresh : ∀ model, vocabulary.fresh model = dialect.initializer (.fresh model)

variable {vocabulary : Vocabulary} {dialect : Dialect}

/-- Every type is spelled, however deep its lists are. -/
theorem Spells.typeText (spells : vocabulary.Spells dialect) (known : NameSet) (shape : Shape) :
    vocabulary.typeText known shape = .ok (dialect.type (shape.resolve known)) := by
  induction shape with
  | primitive type =>
      rw [Vocabulary.typeText]
      show (Lookup.entry type.name).found (vocabulary.types.lookup type.name) = _
      rw [spells.primitive]
      rfl
  | dynamic =>
      rw [Vocabulary.typeText]
      exact congrArg Except.ok spells.dynamic
  | list item inductionHypothesis =>
      rw [Vocabulary.typeText]
      show (do .ok (vocabulary.list (← vocabulary.typeText known item))) = _
      rw [inductionHypothesis, spells.list]
      rfl
  | reference model =>
      rw [Vocabulary.typeText, Shape.resolve]
      show Except.ok (if model ∈ known then model else vocabulary.object) = _
      by_cases member : model ∈ known
      · rw [if_pos member, if_pos member]
        rfl
      · rw [if_neg member, if_neg member, spells.object]
        rfl

/-- A field starts with the initial value of its type. Only an unknown type is looked up by its
spelling. -/
theorem Spells.initialText? (spells : vocabulary.Spells dialect) (known : NameSet) {field : Field}
    (marked : field.Marked) :
    vocabulary.initialText? known field =
      .ok (if field.shape = .dynamic then vocabulary.zeros.lookup dialect.dynamic
        else (field.shape.resolve known).initializer?.map dialect.initializer) := by
  rw [Vocabulary.initialText?, Shape.knownModel?_eq, marked.list, marked.reference,
    spells.typeText]
  cases field.shape with
  | primitive type => exact congrArg Except.ok (spells.zero type)
  | dynamic => rfl
  | list item => exact congrArg (Except.ok ∘ some) spells.emptyList
  | reference model =>
      rcases Shape.resolve_reference known model with resolved | resolved
      · rw [resolved]
        exact congrArg (Except.ok ∘ some) (spells.fresh model)
      · rw [resolved]
        exact congrArg (Except.ok ∘ some) spells.emptyObject

/-- Without an entry for the unknown type a field starts as it does in the source tree. -/
theorem Spells.initialText?_eq (spells : vocabulary.Spells dialect)
    (unspelled : vocabulary.zeros.lookup dialect.dynamic = none) (known : NameSet) {field : Field}
    (marked : field.Marked) :
    vocabulary.initialText? known field =
      .ok ((field.shape.resolve known).initializer?.map dialect.initializer) := by
  rw [spells.initialText? known marked, unspelled]
  by_cases unknown : field.shape = .dynamic
  · rw [if_pos unknown, unknown]
    rfl
  · rw [if_neg unknown]

end Vocabulary

end Exemplar
