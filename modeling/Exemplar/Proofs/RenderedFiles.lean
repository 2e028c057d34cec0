import Exemplar.Proofs.RenderedDart
import Exemplar.Proofs.RenderedKotlin
import Exemplar.Proofs.RenderedTypeScript

/-
Rendered files. In every language the rendering of an extracted model set gives the file of the
source trees together with its imports. Every rendering starts by forgetting what earlier ones have
left, and it knows the models of its set to the end, even when it fails.
-/

namespace Exemplar

open Rendering

namespace Renderer

variable (renderer : Renderer) (options : Options) (set : ModelSet)

/-- A rendering does not depend on what an earlier one has left. -/
theorem perform_write_congr (memory other : Memory) :
    (renderer.write options set).perform memory = (renderer.write options set).perform other := by
  simp only [write, perform_bind, perform_reset]

theorem keepsModels_writeClass {renderer : Renderer}
    (records : ∀ field, KeepsModels (renderer.record options field)) (model : Model) :
    KeepsModels (renderer.writeClass options model) := by
  apply (KeepsModels.mapM records model.fields).bind
  intro records
  apply keepsModels_knownModels.bind
  intro known
  apply (keepsModels_attempt _).bind
  intro scope
  exact (keepsModels_attempt _).bind fun _ => keepsModels_pure _

/-- A rendering knows the models of its set at its end when no step of it forgets them. -/
theorem knownModels_write {renderer : Renderer}
    (records : ∀ field, KeepsModels (renderer.record options field))
    (prepares : KeepsModels (renderer.prepare options)) (memory : Memory) :
    ((renderer.write options set).perform memory).2.knownModels = set.names := by
  have classes := keepsModels_writeClass options records
  have header : KeepsModels (renderer.writeHeader options set) := by
    apply prepares.bind
    intro _
    apply keepsModels_imports.bind
    intro imports
    exact (keepsModels_attempt _).bind fun _ => keepsModels_pure _
  rw [write, perform_bind, perform_reset]
  apply (KeepsModels.mapM classes set.models).bind
  intro texts
  exact header.bind fun _ => keepsModels_pure _

/-- A file is not written when one of its fields has no record. -/
theorem fails_write {renderer : Renderer} {set : ModelSet} {model : Model} {field : Field}
    (records : ∀ field, KeepsModels (renderer.record options field))
    (listed : model ∈ set.models) (present : field ∈ model.fields)
    (fails : ∀ memory : Memory, memory.knownModels = set.names →
      Fails (renderer.record options field) memory) (memory : Memory) :
    Fails (renderer.write options set) memory := by
  apply fails_bind_ok (perform_reset set.names)
  apply Fails.bind
  apply fails_mapM (keepsModels_writeClass options records) listed _ rfl
  intro memory knows
  exact (fails_mapM records present fails knows).bind _

end Renderer

namespace Rendering

theorem TypeScript.keepsModels_record (options : Options) (field : Field) :
    KeepsModels (TypeScript.record options field) := by
  have types : KeepsModels (TypeScript.typeDecorators field) := by
    apply keepsModels_knownModels.bind
    intro known
    split
    · exact keepsModels_pure _
    · split
      · exact keepsModels_pure _
      · exact (keepsModels_addImport _).bind fun _ => keepsModels_pure _
  have keys : KeepsModels (TypeScript.keyDecorators field) := by
    unfold TypeScript.keyDecorators
    split
    · exact (keepsModels_addImport _).bind fun _ => keepsModels_pure _
    · exact keepsModels_pure _
  have decorators : KeepsModels (TypeScript.decorators options field) := by
    unfold TypeScript.decorators
    split
    · exact types.bind fun _ => keys.bind fun _ => keepsModels_pure _
    · exact keepsModels_pure _
  apply keepsModels_knownModels.bind
  intro known
  apply (keepsModels_attempt _).bind
  intro type
  apply (keepsModels_attempt _).bind
  intro initial
  exact decorators.bind fun _ => keepsModels_pure _

theorem Kotlin.keepsModels_record (options : Options) (field : Field) :
    KeepsModels (Kotlin.record options field) := by
  have annotations : KeepsModels (Kotlin.annotations options field) := by
    unfold Kotlin.annotations
    split
    · apply (keepsModels_attempt _).bind
      intro annotation
      split
      · exact keepsModels_pure _
      · exact (keepsModels_addImport _).bind fun _ => keepsModels_pure _
    · exact keepsModels_pure _
  apply keepsModels_knownModels.bind
  intro known
  apply (keepsModels_attempt _).bind
  intro type
  apply (keepsModels_attempt _).bind
  intro declaration
  exact annotations.bind fun _ => keepsModels_pure _

theorem Kotlin.keepsModels_prepare (options : Options) : KeepsModels (Kotlin.prepare options) := by
  unfold Kotlin.prepare
  split
  · exact keepsModels_addImport _
  · exact keepsModels_pure _

/-- A list or an object as style is looked up in vain when a field is renamed. -/
theorem Kotlin.fails_record {options : Options} {field : Field} {memory : Memory}
    (noKey : options.serializationStyle.isTableKey = false) (marked : field.Marked)
    (renamed : field.isRenamed = true) : Fails (Kotlin.record options field) memory := by
  apply fails_bind_ok perform_knownModels
  rw [Kotlin.fieldType_eq]
  apply fails_bind_ok (perform_attempt _)
  rw [Kotlin.declaration_eq _ _ marked]
  apply fails_bind_ok (perform_attempt _)
  apply Fails.bind
  rw [Kotlin.annotations, if_pos renamed]
  apply Fails.bind
  rw [Kotlin.keyAnnotation?]
  cases style : options.serializationStyle with
  | array items => exact fails_attempt _
  | object members => exact fails_attempt _
  | _ => simp [style, Json.isTableKey] at noKey

theorem Dart.keepsModels_record (options : Options) (field : Field) :
    KeepsModels (Dart.record options field) := by
  apply keepsModels_knownModels.bind
  intro known
  apply (keepsModels_attempt _).bind
  intro type
  exact (keepsModels_attempt _).bind fun _ => keepsModels_pure _

end Rendering

namespace Language

/-- After a rendering exactly the models of its set are known, also when it has failed. -/
theorem knownModels_write (language : Language) (options : Options) (set : ModelSet)
    (memory : Memory) :
    ((language.renderer.write options set).perform memory).2.knownModels = set.names := by
  cases language with
  | typeScript =>
      exact Renderer.knownModels_write options set (TypeScript.keepsModels_record options)
        (keepsModels_pure ()) memory
  | dart =>
      exact Renderer.knownModels_write options set (Dart.keepsModels_record options)
        (keepsModels_pure ()) memory
  | kotlin =>
      exact Renderer.knownModels_write options set (Kotlin.keepsModels_record options)
        (Kotlin.keepsModels_prepare options) memory

/-- The rendering of marked models gives the code of their file and its imports. Only Kotlin looks a
style up, and only for a renamed field. -/
theorem perform_write (language : Language) {options : Options} {set : ModelSet} {memory : Memory}
    (isKey : language = .kotlin → ∀ model ∈ set.models, ∀ field ∈ model.fields,
      field.isRenamed = true → options.serializationStyle.isTableKey = true)
    (marked : ∀ model ∈ set.models, model.Marked) :
    (language.renderer.write options set).perform memory =
      (.ok (language.emit options.settings set).code,
        ⟨set.names, (language.emit options.settings set).imports⟩) := by
  cases language with
  | typeScript => exact TypeScript.perform_write marked
  | dart => exact Dart.perform_write marked
  | kotlin => exact Kotlin.perform_write (isKey rfl) marked

/-- Only Kotlin may fail to write marked models. It does so when it looks up a list or an object as
the style of a renamed field. -/
theorem fails_write_iff (language : Language) {options : Options} {set : ModelSet}
    (memory : Memory) (marked : ∀ model ∈ set.models, model.Marked) :
    Fails (language.renderer.write options set) memory ↔
      language = .kotlin ∧ options.serializationStyle.isTableKey = false ∧
        ∃ model ∈ set.models, ∃ field ∈ model.fields, field.isRenamed = true := by
  constructor
  · rintro ⟨error, failed⟩
    by_contra unfounded
    have isKey : language = .kotlin → ∀ model ∈ set.models, ∀ field ∈ model.fields,
        field.isRenamed = true → options.serializationStyle.isTableKey = true := by
      intro isKotlin model listed field present renamed
      by_contra noKey
      apply unfounded
      exact ⟨isKotlin, Bool.eq_false_iff.mpr noKey, model, listed, field, present, renamed⟩
    rw [language.perform_write isKey marked] at failed
    cases failed
  · rintro ⟨rfl, noKey, model, listed, field, present, renamed⟩
    apply Renderer.fails_write options (Kotlin.keepsModels_record options) listed present
    intro memory _
    exact Kotlin.fails_record noKey (marked model listed field present) renamed

theorem fileName_emit (language : Language) (settings : Settings) (set : ModelSet) :
    (language.emit settings set).fileName = language.fileName set.root.name := by
  cases language <;> rfl

/-- The type of a field is written as in the source trees. -/
theorem renderedType_eq (language : Language) (known : NameSet) (field : Field) :
    language.renderedType known field = .ok (language.fieldType known field) := by
  cases language with
  | typeScript => exact TypeScript.spells.typeText known field.shape
  | dart => exact Dart.fieldType_eq known field
  | kotlin => exact Kotlin.fieldType_eq known field

/-- A marked field starts as in the source trees. -/
theorem renderedInitial?_eq (language : Language) (known : NameSet) {field : Field}
    (marked : field.Marked) :
    language.renderedInitial? known field = .ok (language.initialText? known field) := by
  cases language with
  | typeScript => exact TypeScript.initialText?_eq known marked
  | dart => exact Dart.initialText?_eq known marked
  | kotlin => exact Kotlin.initialText?_eq known marked

end Language

end Exemplar
