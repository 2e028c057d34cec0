import Exemplar.Emission
import Exemplar.Proofs.CoherentModels

namespace Exemplar

/-- Only a dynamic shape has no initial value. -/
theorem Shape.exists_initializer {shape : Shape} (known : NameSet) (typed : shape ≠ .dynamic) :
    ∃ initializer, (shape.resolve known).initializer? = some initializer := by
  cases shape with
  | dynamic => exact absurd rfl typed
  | primitive type => exact ⟨.zero type, rfl⟩
  | list item => exact ⟨.emptyList, rfl⟩
  | reference model =>
      rw [resolve]
      split
      · exact ⟨.fresh model, rfl⟩
      · exact ⟨.emptyObject, rfl⟩

/-- A field that is not nullable and not dynamic has an initial value in every language. -/
theorem Language.exists_initialText (language : Language) (known : NameSet) {field : Field}
    (required : field.nullable = false) (typed : field.shape ≠ .dynamic) :
    ∃ text, language.initialText? known field = some text := by
  obtain ⟨initializer, found⟩ := Shape.exists_initializer known typed
  cases language with
  | typeScript =>
      refine ⟨TypeScript.dialect.initializer initializer, ?_⟩
      simp [initialText?, TypeScript.initializer?, required, found]
  | dart =>
      refine ⟨Dart.dialect.initializer initializer, ?_⟩
      simp [initialText?, Dart.initializer?, required, found]
  | kotlin => exact ⟨_, rfl⟩

/-- In every language a field of an extracted model has an initial value unless it is nullable. -/
theorem Extraction.exists_initialText {nullSafety : Bool} {name : String}
    {members : List (String × Json)} (language : Language) (known : NameSet) {model : Model}
    (listed : model ∈ (ofMembers nullSafety name members).models.models) {field : Field}
    (present : field ∈ model.fields) (required : field.nullable = false) :
    ∃ text, language.initialText? known field = some text := by
  apply language.exists_initialText known required
  intro unknown
  have nullable := (coherent_fields_ofMembers model listed field present).unknown unknown
  exact Bool.false_ne_true (required.symm.trans nullable)

end Exemplar
