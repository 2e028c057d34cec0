import Exemplar.Proofs.LegibleTypes
import Exemplar.Proofs.UsedImports

namespace Exemplar

open Naming

namespace TypeScript

/-- A field is declared by its name after two blanks, and a question mark marks the name. -/
def fieldOutline? : List Char → Option FieldOutline
  | ' ' :: ' ' :: text =>
      let name := String.ofList (text.takeWhile isWordCharacter)
      match text.dropWhile isWordCharacter with
      | ':' :: ' ' :: type => some ⟨name, false, String.ofList (declaredType type)⟩
      | '?' :: ':' :: ' ' :: type => some ⟨name, true, String.ofList (declaredType type)⟩
      | _ => none
  | _ => none

/-- A plain name before a colon is read as the name of a field, and before a question mark as a
marked name. -/
theorem fieldOutline?_declaration {name : List Char} (plain : isPlainText name = true)
    (optional : Bool) (type : List Char) :
    fieldOutline?
        (' ' :: ' ' :: (name ++ ((if optional then ['?'] else []) ++ ':' :: ' ' :: type))) =
      some ⟨String.ofList name, optional, String.ofList (declaredType type)⟩ := by
  have word := all_of_isPlainText plain
  cases optional with
  | false =>
      obtain ⟨taken, dropped⟩ := @span_append _ _ (':' :: ' ' :: type) word rfl
      simp only [fieldOutline?, Bool.false_eq_true, if_false, List.nil_append, taken, dropped]
  | true =>
      obtain ⟨taken, dropped⟩ := @span_append _ _ ('?' :: ':' :: ' ' :: type) word rfl
      simp only [fieldOutline?, if_true, List.singleton_append, taken, dropped]

/-- A model that a field holds is written on one line when its type is. -/
theorem unbroken_heldModel {type : FieldType} {model : String}
    (unbroken : '\n' ∉ (dialect.type type).toList) (holds : type.heldModel? = some model) :
    '\n' ∉ model.toList := by
  cases type with
  | model name =>
      cases holds
      exact unbroken
  | list item =>
      cases item <;> cases holds
      simpa [Dialect.type, dialect] using unbroken
  | _ => cases holds

/-- A decorator is written on one line when what it names is, and it declares no field. -/
theorem tells_decorator {decorator : Decorator}
    (unbroken : '\n' ∉ decorator.text.toList) :
    LineTells fieldOutline? ("  " ++ decorator.text) .nothing where
  unbroken := by simpa using unbroken
  told := by
    cases decorator <;>
      simp +decide [Decorator.text_type, Decorator.text_expose, tell, fieldOutline?]

/-- The lines of a property show its name and its type. -/
theorem shows_fieldLines {property : Property} (named : IsPlain property.name)
    (legible : isLegible (dialect.type property.type).toList = true)
    (decorated : ∀ decorator ∈ property.decorators, '\n' ∉ decorator.text.toList)
    (initial : ∀ value ∈ property.initializer, property.type.initializer? = some value) :
    (fieldLines property).Shows fieldOutline?
      ⟨property.name, property.optional, dialect.type property.type⟩ where
  annotations := by
    intro line member
    obtain ⟨decorator, carried, rfl⟩ := List.mem_map.mp member
    exact tells_decorator (decorated decorator carried)
  declaration := by
    have nameUnbroken := unbroken_of_isPlain named
    have typeUnbroken := unbroken_of_isLegible legible
    have valueUnbroken : '\n' ∉ (assigned (property.initializer.map dialect.initializer)).toList :=
      unbroken_assigned .typeScript typeUnbroken initial
    have text : ((fieldLines property).before ++ (fieldLines property).name ++
        (fieldLines property).after).toList = ' ' :: ' ' :: (property.name.toList ++
          ((if property.optional then ['?'] else []) ++ ':' :: ' ' ::
            (dialect.type property.type ++
              (assigned (property.initializer.map dialect.initializer) ++ ";")).toList)) := by
      cases optional : property.optional <;> simp [fieldLines, optional]
    have read := declaredType_declaration legible
      (property.initializer.map dialect.initializer) (show ";" ∈ ["", ",", ";"] by simp)
    constructor
    · rw [text]
      cases property.optional <;> simp [nameUnbroken, typeUnbroken, valueUnbroken]
    · rw [text, tell_indented (fieldOutline?_declaration named _ _), read]
      simp

/-- The parameters of a constructor are written on one line. -/
theorem unbroken_parameters {parameters : List Parameter}
    (plain : ∀ parameter ∈ parameters, IsPlain parameter.name ∧
      isLegible (dialect.type parameter.type).toList = true) :
    '\n' ∉ (", ".intercalate (parameters.map Parameter.text)).toList := by
  refine unbroken_intercalate (by decide) (List.forall_mem_map.mpr fun parameter member => ?_)
  obtain ⟨named, legible⟩ := plain parameter member
  have nameUnbroken := unbroken_of_isPlain named
  have typeUnbroken := unbroken_of_isLegible legible
  obtain ⟨name, presence, type⟩ := parameter
  cases presence <;> simp [Parameter.text, nameUnbroken, typeUnbroken]

/-- The lines of a form tell nothing. -/
theorem tells_form {form : Form}
    (plain : ∀ parameters, form = .constructedClass parameters → ∀ parameter ∈ parameters,
      IsPlain parameter.name ∧ isLegible (dialect.type parameter.type).toList = true) :
    ∀ line ∈ form.lines, LineTells fieldOutline? line .nothing := by
  cases form with
  | constructedClass parameters =>
      have plainParameters := plain parameters rfl
      intro line member
      simp only [Form.lines, List.mem_append, List.mem_cons, List.mem_map, List.not_mem_nil,
        or_false] at member
      rcases member with ((rfl | rfl) | ⟨parameter, listed, rfl⟩) | rfl
      · exact ⟨by decide, rfl⟩
      · have unbroken := unbroken_parameters plainParameters
        constructor
        · simpa using unbroken
        · simp +decide [tell, fieldOutline?]
      · have unbroken := unbroken_of_isPlain (plainParameters parameter listed).1
        constructor
        · simp [unbroken]
        · simp +decide [tell, fieldOutline?]
      · exact ⟨by decide, rfl⟩
  | _ => exact fun _ missing => absurd missing List.not_mem_nil

/-- Each parameter is that of a field. -/
theorem exists_of_mem_parameters {known : NameSet} {fields : List Field} {parameter : Parameter}
    (listed : parameter ∈ parameters known fields) :
    ∃ field ∈ fields, parameter.name = field.name ∧
      parameter.type = field.shape.resolve known := by
  induction fields with
  | nil => cases listed
  | cons first later inductionHypothesis =>
      rcases List.mem_cons.mp listed with rfl | isLater
      · exact ⟨first, List.mem_cons_self, rfl, rfl⟩
      · obtain ⟨field, member, same⟩ := inductionHypothesis isLater
        exact ⟨field, List.mem_cons_of_mem _ member, same⟩

/-- The declaration of a plain model shows its outline. -/
theorem shows_declaration (settings : Settings) {known : NameSet}
    (names : ∀ name ∈ known, IsPlain name) {model : Model} (plain : model.IsPlain) :
    (classLines (declaration settings known model)).Shows fieldOutline?
      (model.outline .typeScript known) where
  annotations := fun _ missing => absurd missing List.not_mem_nil
  opening := by
    have keyword (form : Form) : form.keyword = "interface" ∨ form.keyword = "class" := by
      cases form with
      | interface => exact .inl rfl
      | _ => exact .inr rfl
    rcases keyword (form settings known model) with written | written <;>
      simp only [classLines, declaration, written] <;>
      exact tells_opening (by decide) (by decide) plain.name (by decide) (by decide)
  fields := by
    rw [classLines, declaration, List.map_map, Model.outline, List.forall₂_map_left_iff,
      List.forall₂_map_right_iff, List.forall₂_same]
    intro field member
    have legible := (Language.legible_dialect .typeScript).type names field.shape
    refine shows_fieldLines (plain.fields field member).name legible ?_ ?_
    · intro decorator carried
      obtain ⟨_, ⟨held, holds, _, rfl⟩ | ⟨_, rfl⟩⟩ := mem_decorators_iff.mp carried
      · have unbroken := unbroken_heldModel (unbroken_of_isLegible legible) holds
        simpa [Decorator.text_type] using unbroken
      · have unbroken := (unbroken_quoted (plain.fields field member).key).1
        simpa [Decorator.text_expose] using unbroken
    · intro value assigned
      simp only [property, initializer?, Option.mem_def, Option.ite_none_left_eq_some] at assigned
      exact assigned.2.2
  below := by
    rw [classLines, List.forall_mem_append, List.forall_mem_singleton]
    refine ⟨tells_form ?_, by decide, rfl⟩
    intro parameters constructed parameter listed
    simp only [declaration, form] at constructed
    split at constructed
    · cases constructed
    · split at constructed
      · cases constructed
        obtain ⟨field, member, named, typed⟩ := exists_of_mem_parameters listed
        rw [named, typed]
        exact ⟨(plain.fields field member).name,
          (Language.legible_dialect .typeScript).type names field.shape⟩
      · cases constructed

/-- The import line tells nothing. -/
theorem tells_importParts (file : File) :
    ∀ part ∈ file.importParts, LineTells fieldOutline? part .nothing := by
  have unbroken : '\n' ∉ (", ".intercalate file.imports).toList := by
    refine unbroken_intercalate (by decide) fun name imported => ?_
    rw [File.imports, NameSet.mem_ofList] at imported
    obtain ⟨decorator, _, rfl⟩ := List.mem_map.mp imported
    rcases importName_cases decorator with named | named <;> rw [named] <;> decide
  unfold File.importParts
  split
  · exact fun _ missing => absurd missing List.not_mem_nil
  · refine List.forall_mem_singleton.mpr ⟨?_, ?_⟩
    · simp [-String.toList_intercalate, unbroken]
    · simp +decide [tell, fieldOutline?]

end TypeScript

end Exemplar
