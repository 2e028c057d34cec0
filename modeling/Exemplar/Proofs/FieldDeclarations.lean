import Exemplar.Proofs.ClassLines
import Exemplar.Proofs.DefaultInstances
import Exemplar.Proofs.WrittenRoutines

namespace Exemplar

/-- A field is declared by its name and its type, perhaps with a mark and with a value. -/
structure FieldDeclaration where
  name : String
  type : String
  marked : Bool
  value : Option String
  deriving DecidableEq

/-- A question mark marks a declaration that admits null. -/
def FieldDeclaration.mark (declaration : FieldDeclaration) : String :=
  if declaration.marked then "?" else ""

namespace Language

/-- The lines of a field declare it in the notation of a language. -/
inductive Declares : Language → FieldDeclaration → FieldLines → Prop where
  | typeScript (declaration : FieldDeclaration) (annotations : List String) :
      Declares .typeScript declaration
        { annotations := annotations
          before := "  "
          name := declaration.name
          after := declaration.mark ++ ": " ++ declaration.type ++ assigned declaration.value ++
            ";" }
  | dart (declaration : FieldDeclaration) (annotations : List String) {keyword : String}
      (keyworded : keyword ∈ ["", "final "]) :
      Declares .dart declaration
        { annotations := annotations
          before := "  " ++ keyword ++ (declaration.type ++ declaration.mark) ++ " "
          name := declaration.name
          after := assigned declaration.value ++ ";" }
  | kotlin (declaration : FieldDeclaration) (annotations : List String) {keyword ending : String}
      (keyworded : keyword ∈ ["val", "var"]) (ended : ending ∈ ["", ","]) :
      Declares .kotlin declaration
        { annotations := annotations
          before := "    " ++ keyword ++ " "
          name := declaration.name
          after := ": " ++ (declaration.type ++ declaration.mark) ++ assigned declaration.value ++
            ending }

/-- These lines may open a class of a name. In Kotlin a class without fields has no body. -/
def openings (language : Language) (name : String) (bare : Bool) : List String :=
  match language, bare with
  | .typeScript, _ =>
      ["export class " ++ name ++ " \x7b", "export interface " ++ name ++ " \x7b"]
  | .dart, _ => ["class " ++ name ++ " \x7b"]
  | .kotlin, true => ["class " ++ name]
  | .kotlin, false => ["class " ++ name ++ " \x7b", "data class " ++ name ++ "("]

/-- The lines of a class declare a name when the line that opens the class names it. -/
def DeclaresClass (language : Language) (name : String) (declared : ClassLines) : Prop :=
  declared.opening ∈ language.openings name declared.fields.isEmpty

instance (language : Language) (settings : Settings) :
    Decidable (language.InitializesInPlace settings) :=
  inferInstanceAs (Decidable (_ ∧ _))

/-- This is what a field is declared to start with. A parameter in Kotlin may be left out when it
admits null. -/
def declaredValue? (language : Language) (settings : Settings) (known : NameSet) (field : Field) :
    Option String :=
  if language.InitializesInPlace settings then language.initialText? known field
  else if language = .kotlin ∧ field.nullable then some "null"
  else none

/-- This function declares a field. The type `dynamic` takes no mark. -/
def declaration (language : Language) (settings : Settings) (known : NameSet) (field : Field) :
    FieldDeclaration :=
  let type := language.dialect.type (field.shape.resolve known)
  { name := field.name
    type := type
    marked := !(language = .dart && type == Dart.dialect.dynamic) && field.nullable
    value := language.declaredValue? settings known field }

/-- This function lists the lines of the class of a model. -/
def modelLines (language : Language) (settings : Settings) (known : NameSet) (model : Model) :
    ClassLines :=
  match language with
  | .typeScript => TypeScript.classLines (TypeScript.declaration settings known model)
  | .dart => Dart.classLines (Dart.declare settings known model)
  | .kotlin => Kotlin.classLines (Kotlin.declare settings known model)

/-- The classes of a file are those of the models of its set, in the same order. -/
theorem classLines_eq_map (language : Language) (settings : Settings) (set : ModelSet) :
    language.classLines settings set =
      set.models.map (language.modelLines settings set.names) := by
  cases language <;> exact List.map_map

section

variable (settings : Settings) (known : NameSet)

/-- A property in TypeScript declares its field. -/
theorem declares_typeScript (field : Field) :
    typeScript.Declares (typeScript.declaration settings known field)
      (TypeScript.fieldLines (TypeScript.property settings known field)) := by
  have value : (typeScript.declaration settings known field).value =
      (TypeScript.property settings known field).initializer.map
        TypeScript.dialect.initializer := by
    by_cases built : settings.constructors = true <;>
      by_cases typeOnly : settings.style = some .typeOnly <;>
      simp [declaration, declaredValue?, InitializesInPlace, TypeScript.property, initialText?,
        built, typeOnly]
  have lines := Declares.typeScript (typeScript.declaration settings known field)
    (TypeScript.fieldLines (TypeScript.property settings known field)).annotations
  rw [value] at lines
  exact lines

/-- A property in Dart declares its field. -/
theorem declares_dart (field : Field) :
    dart.Declares (dart.declaration settings known field)
      (Dart.fieldLines (Dart.property settings known field)) := by
  have value : (dart.declaration settings known field).value =
      (Dart.property settings known field).initializer.map Dart.dialect.initializer := by
    by_cases built : settings.constructors = true <;>
      simp [declaration, declaredValue?, InitializesInPlace, Dart.property, initialText?, built]
  have type : Dart.nullableType (field.shape.resolve known) field.nullable =
      (dart.declaration settings known field).type ++
        (dart.declaration settings known field).mark := by
    rw [Dart.nullableType_eq, Bool.and_comm]
    rfl
  have keyworded : (if settings.constructors then "final " else "") ∈ ["", "final "] := by
    cases settings.constructors <;> decide
  have lines := Declares.dart (dart.declaration settings known field)
    (Dart.fieldLines (Dart.property settings known field)).annotations keyworded
  rw [← type, value] at lines
  exact lines

/-- The properties of a class in Kotlin declare the fields of its model. -/
theorem declares_kotlin (field : Field) {ending : String} (ended : ending ∈ ["", ","])
    (form : Kotlin.Form) :
    kotlin.Declares (kotlin.declaration settings known field)
      (Kotlin.fieldLines form ending (Kotlin.property settings known field)) := by
  have value : (kotlin.declaration settings known field).value =
      (Kotlin.property settings known field).initialValue.map Kotlin.InitialValue.text := by
    by_cases built : settings.constructors = true <;>
      cases nullable : field.nullable <;>
      simp [declaration, declaredValue?, InitializesInPlace, Kotlin.property, Kotlin.initialValue,
        initialText?, Kotlin.InitialValue.text, built, nullable]
  have type : Kotlin.nullableType (field.shape.resolve known) field.nullable =
      (kotlin.declaration settings known field).type ++
        (kotlin.declaration settings known field).mark := by
    cases nullable : field.nullable <;>
      simp [Kotlin.nullableType, declaration, FieldDeclaration.mark, dialect, nullable]
  have keyworded : form.keyword ∈ ["val", "var"] := by
    cases form <;> decide
  have lines := Declares.kotlin (kotlin.declaration settings known field)
    (Kotlin.fieldLines form ending (Kotlin.property settings known field)).annotations keyworded
    ended
  rw [← type, value] at lines
  exact lines

end

/-- The lines of a class declare the fields of its model one by one. -/
theorem declares_fields (language : Language) (settings : Settings) (known : NameSet)
    (model : Model) :
    List.Forall₂
      (fun field lines => language.Declares (language.declaration settings known field) lines)
      model.fields (language.modelLines settings known model).fields := by
  cases language with
  | typeScript =>
      rw [modelLines, TypeScript.classLines, TypeScript.declaration, List.map_map]
      exact forall₂_map fun field _ => declares_typeScript settings known field
  | dart =>
      rw [modelLines, Dart.classLines, Dart.declare, List.map_map]
      exact forall₂_map fun field _ => declares_dart settings known field
  | kotlin =>
      apply Kotlin.forall₂_propertyFields
      · intro field _
        exact declares_kotlin settings known field (by decide) _
      · intro field _
        exact declares_kotlin settings known field (by decide) _

/-- The lines of a class have no fields exactly when its model has none. -/
theorem isEmpty_fields (language : Language) (settings : Settings) (known : NameSet)
    (model : Model) :
    (language.modelLines settings known model).fields.isEmpty = model.fields.isEmpty := by
  have declared := declares_fields language settings known model
  generalize (language.modelLines settings known model).fields = lines at declared ⊢
  generalize model.fields = fields at declared ⊢
  cases declared <;> rfl

end Language

/-- A model keeps its whole name when it has fields or is named as an object without keys. Otherwise
blanks at the end of its name may be dropped. -/
def Model.KeepsName (model : Model) : Prop :=
  model.fields ≠ [] ∨ model.name = Shape.emptyObjectName

/-- The class of a model declares its name. -/
theorem Language.declaresClass_modelLines (language : Language) (settings : Settings)
    (known : NameSet) {model : Model} (keeps : model.KeepsName) :
    language.DeclaresClass model.name (language.modelLines settings known model) := by
  rw [DeclaresClass, isEmpty_fields]
  cases language with
  | typeScript =>
      show "export " ++ (TypeScript.form settings known model).keyword ++ " " ++ model.name ++
        " \x7b" ∈ _
      cases TypeScript.form settings known model with
      | interface => exact List.mem_cons_of_mem _ List.mem_cons_self
      | plainClass => exact List.mem_cons_self
      | constructedClass parameters => exact List.mem_cons_self
  | dart => exact List.mem_cons_self
  | kotlin =>
      obtain ⟨name, fields⟩ := model
      cases fields with
      | nil =>
          have named : name = Shape.emptyObjectName :=
            keeps.resolve_left fun started => started rfl
          subst named
          have untrimmed : Unicode.trimEnd ("class " ++ Shape.emptyObjectName).toList =
              ("class " ++ Shape.emptyObjectName).toList := by decide
          have opening : (kotlin.modelLines settings known ⟨Shape.emptyObjectName, []⟩).opening =
              "class " ++ Shape.emptyObjectName :=
            (congrArg String.ofList untrimmed).trans String.ofList_toList
          exact List.mem_singleton.mpr opening
      | cons field rest =>
          cases constructors : settings.constructors with
          | true => simp [modelLines, Kotlin.classLines, Kotlin.declare, constructors, openings]
          | false => simp [modelLines, Kotlin.classLines, Kotlin.declare, constructors, openings]

/-- A model that is merged with another one keeps its whole name if it has kept it so far. -/
theorem Model.KeepsName.merge {model : Model} (keeps : model.KeepsName) (other : Model) :
    (model.merge other).KeepsName := by
  apply keeps.imp_left
  intro started
  simp [Model.merge, started]

namespace Extraction

/-- All models of a document with members keep their whole names. -/
theorem keepsName_of_mem_models {nullSafety : Bool} {name : String}
    {members : List (String × Json)} (started : members ≠ []) :
    ∀ model ∈ (ofMembers nullSafety name members).models.models, model.KeepsName := by
  have merges (model other : Model) (keeps : model.KeepsName) (_ : other.KeepsName) :
      (model.merge other).KeepsName := keeps.merge other
  apply invariant_ofMembers merges
  · exact .inl (mt List.map_eq_nil_iff.mp started)
  · intro sample _
    cases named : sample.members with
    | nil => exact .inr (congrArg Shape.referenceName named)
    | cons first rest => exact .inl (List.cons_ne_nil _ _)

theorem members_ne_nil_of_mem_fields {nullSafety : Bool} {name : String}
    {members : List (String × Json)} {model : Model} {field : Field}
    (member : model ∈ (ofMembers nullSafety name members).models.models)
    (present : field ∈ model.fields) : members ≠ [] := by
  rintro rfl
  rw [List.mem_singleton.mp member] at present
  exact List.not_mem_nil present

/-- In a document with fields every known name is the name of a model that keeps it. -/
theorem exists_keepsName {nullSafety : Bool} {name : String} {members : List (String × Json)}
    {model : Model} {field : Field}
    (member : model ∈ (ofMembers nullSafety name members).models.models)
    (present : field ∈ model.fields) {known : String}
    (named : known ∈ (ofMembers nullSafety name members).models.names) :
    ∃ declared ∈ (ofMembers nullSafety name members).models.models,
      declared.name = known ∧ declared.KeepsName := by
  rw [ModelSet.names, NameSet.mem_ofList] at named
  obtain ⟨declared, declaredMember, sameName⟩ := List.mem_map.mp named
  have started := members_ne_nil_of_mem_fields member present
  exact ⟨declared, declaredMember, sameName,
    keepsName_of_mem_models started declared declaredMember⟩

end Extraction

end Exemplar
