import Exemplar.Proofs.DistinctNames
import Exemplar.Proofs.Vocabularies

/-
Rendered TypeScript. The records of fields show the properties of the source tree, each decorator
is imported when it is written, and the templates write the lines of the tree.
-/

namespace Exemplar.Rendering.TypeScript

open Exemplar.TypeScript (Declaration Decorator File Form Parameter Property dialect form
  property)

theorem spells : vocabulary.Spells dialect where
  primitive type := by cases type <;> rfl
  dynamic := rfl
  object := rfl
  list := rfl
  zero type := by cases type <;> decide
  emptyObject := rfl
  emptyList := rfl
  fresh _ := rfl

variable {options : Options} {known : NameSet} {field : Field} {memory : Memory}

theorem initialText?_eq (known : NameSet) (marked : field.Marked) :
    initialText? known field =
      .ok ((Exemplar.TypeScript.initializer? (field.shape.resolve known) field).map
        dialect.initializer) := by
  rw [initialText?, Exemplar.TypeScript.initializer?, spells.initialText?_eq rfl known marked]
  cases field.nullable <;> rfl

theorem inPlace_iff :
    inPlace options = true ↔
      ¬ (options.settings.constructors = true ∨ options.settings.style = some .typeOnly) := by
  rw [inPlace, ← Options.hasStyle_iff, Bool.and_eq_true, Bool.not_eq_true', Bool.not_eq_true',
    not_or, Bool.not_eq_true, Bool.not_eq_true, and_comm]
  rfl

/-- A field that holds a named model has a decorator for it. -/
def modelDecorators : Option String → List Decorator
  | some model => if model = "" then [] else [.type model]
  | none => []

theorem perform_typeDecorators :
    (typeDecorators field).perform memory =
      let carried := modelDecorators (field.shape.resolve memory.knownModels).heldModel?
      (.ok (carried.map Decorator.text), memory.importing (carried.map Decorator.importName)) := by
  rw [typeDecorators, perform_bind_ok perform_knownModels, Shape.heldModel?_eq]
  cases (field.shape.resolve memory.knownModels).heldModel? with
  | none => rfl
  | some model =>
      by_cases unnamed : model = ""
      · simp [unnamed, modelDecorators]
      · simp only [unnamed, modelDecorators, if_false]
        rfl

theorem perform_keyDecorators :
    (keyDecorators field).perform memory =
      let carried : List Decorator := if field.isRenamed then [.expose field.key] else []
      (.ok (carried.map Decorator.text), memory.importing (carried.map Decorator.importName)) := by
  rw [keyDecorators]
  cases field.isRenamed with
  | true => rfl
  | false => rfl

/-- The decorators of a field are imported while they are written. -/
theorem perform_decorators :
    (decorators options field).perform memory =
      let carried := Exemplar.TypeScript.decorators options.settings.style
        (field.shape.resolve memory.knownModels) field
      (.ok (carried.map Decorator.text), memory.importing (carried.map Decorator.importName)) := by
  rw [decorators, Exemplar.TypeScript.decorators]
  by_cases mapped : options.settings.style = some .classTransformer
  · rw [if_pos (Options.hasStyle_iff.mpr mapped), if_pos mapped,
      perform_bind_ok perform_typeDecorators, perform_bind_ok perform_keyDecorators]
    simp only [perform_pure, Memory.importing_importing, List.map_append]
    rfl
  · rw [if_neg (mt Options.hasStyle_iff.mp mapped), if_neg mapped]
    rfl

/-- This record shows a property. -/
def shownRecord (property : Property) : Json :=
  .object
    [("name", .string property.name), ("type", .string (dialect.type property.type)),
     ("declaration", .string property.text),
     ("decorators", .array (property.decorators.map fun decorator => .string decorator.text))]

/-- A property is declared with the type and the initial value that it has in the source tree. -/
theorem declaration_eq (options : Options) (known : NameSet) (field : Field) :
    declaration field (dialect.type (field.shape.resolve known))
        ((property options.settings known field).initializer.map dialect.initializer) =
      (property options.settings known field).text := by
  unfold declaration Property.text
  cases (property options.settings known field).initializer <;> rfl

/-- The record of a field shows its property. -/
theorem perform_record (marked : field.Marked) (knows : memory.knownModels = known) :
    (record options field).perform memory =
      (.ok (shownRecord (property options.settings known field)),
        memory.importing
          ((property options.settings known field).decorators.map Decorator.importName)) := by
  subst knows
  have initial : (if inPlace options then initialText? memory.knownModels field else .ok none) =
      .ok ((property options.settings memory.knownModels field).initializer.map
        dialect.initializer) := by
    rw [initialText?_eq _ marked, property]
    by_cases constructed : options.settings.constructors = true ∨
        options.settings.style = some .typeOnly
    · rw [if_neg (mt inPlace_iff.mp (not_not_intro constructed)), if_pos constructed]
      rfl
    · rw [if_pos (inPlace_iff.mpr constructed), if_neg constructed]
  rw [record, perform_bind_ok perform_knownModels, spells.typeText, initial]
  rw [perform_bind_ok (perform_attempt _), perform_bind_ok (perform_attempt _),
    perform_bind_ok perform_decorators, declaration_eq, perform_pure]
  simp only [shownRecord, List.map_map, Function.comp_def]
  rfl

/-- The template writes a property below its decorators. -/
theorem lines_fieldTemplate (property : Property) (last : Bool) (scope : Scope) :
    Template.lines fieldTemplate (scope.within "field" (shownRecord property) last) =
      .ok property.lines := by
  have decorated : (TemplatePart.each "decorator" (.part "field" "decorators")
      [.line ["  ", .shown "decorator"]]).lines
        (scope.within "field" (shownRecord property) last) =
      .ok (property.decorators.map fun decorator => "  " ++ decorator.text) := by
    apply TemplatePart.lines_each_line rfl
    intro decorator _ last
    simp [Scope.within]
  rw [fieldTemplate, Template.lines, decorated]
  simp [Scope.within, shownRecord, Property.lines]

theorem foldrM_addParameter (known : NameSet) (fields : List Field) :
    fields.foldrM (addParameter known) ([], true) =
      .ok ((Exemplar.TypeScript.parameters known fields).map Parameter.text,
        fields.all Field.nullable) := by
  induction fields with
  | nil => rfl
  | cons field later inductionHypothesis =>
      rw [List.foldrM_cons, inductionHypothesis]
      show addParameter known field _ = _
      rw [addParameter, spells.typeText]
      show (if !field.nullable then _ else if later.all Field.nullable then _ else _) = _
      rw [Exemplar.TypeScript.parameters, List.map_cons, Parameter.text, List.all_cons]
      cases field.nullable <;> cases later.all Field.nullable <;> rfl

/-- The pass chooses the parameters of the source tree. -/
theorem parameters_eq (known : NameSet) (model : Model) :
    parameters known model =
      .ok (", ".intercalate
        ((Exemplar.TypeScript.parameters known model.fields).map Parameter.text)) := by
  rw [parameters, foldrM_addParameter]
  rfl

/-- The template writes the constructor of a class. -/
theorem lines_constructorTemplate {scope : Scope} {properties : List Property} {announced : String}
    (fields : Json.member? "fields" scope = some (.array (properties.map shownRecord)))
    (params : Json.member? "constructor_params" scope = some (.string announced)) :
    Template.lines constructorTemplate scope =
      .ok (["", "  constructor(" ++ announced ++ ") \x7b"] ++
        properties.map (fun property =>
          "    this." ++ property.name ++ " = " ++ property.name ++ ";") ++
        ["  \x7d"]) := by
  have assigned : (TemplatePart.each "field" "fields"
      [.line ["    this.", .shown (.part "field" "name"), " = ", .shown (.part "field" "name"),
        ";"]]).lines scope =
      .ok (properties.map fun property =>
        "    this." ++ property.name ++ " = " ++ property.name ++ ";") := by
    apply TemplatePart.lines_each_line (by rw [Placeholder.value, fields, Lookup.found_some])
    intro property _ last
    simp [Scope.within, shownRecord, String.append_assoc]
  simp only [constructorTemplate, Template.lines, assigned]
  simp [params, String.append_assoc]

/-- The variables of a class show its form. -/
theorem classVariables_eq (options : Options) (known : NameSet) (model : Model) :
    classVariables options known model =
      .ok
        [("kind", .string (form options.settings known model).keyword),
         ("include_constructor",
           .boolean (options.settings.constructors && !options.hasStyle .typeOnly)),
         ("constructor_params", .string (", ".intercalate
           ((Exemplar.TypeScript.parameters known model.fields).map Parameter.text)))] := by
  have constructors : options.includeConstructor.truthy = options.settings.constructors := rfl
  rw [classVariables, parameters_eq, form, constructors]
  by_cases described : options.settings.style = some .typeOnly
  · rw [if_pos described, Options.hasStyle_iff.mpr described]
    rfl
  · rw [if_neg described, Bool.eq_false_iff.mpr (mt Options.hasStyle_iff.mp described)]
    cases options.settings.constructors <;> rfl

/-- The constructor is written in the form that has one. -/
theorem lines_form (options : Options) (known : NameSet) (model : Model) (scope : Scope)
    (chosen : Json.member? "include_constructor" scope =
      some (.boolean (options.settings.constructors && !options.hasStyle .typeOnly)))
    (fields : Json.member? "fields" scope =
      some (.array ((model.fields.map (property options.settings known)).map shownRecord)))
    (params : Json.member? "constructor_params" scope =
      some (.string (", ".intercalate
        ((Exemplar.TypeScript.parameters known model.fields).map Parameter.text)))) :
    (TemplatePart.choice (.holds "include_constructor") constructorTemplate []).lines scope =
      .ok (form options.settings known model).lines := by
  have names := congrArg (List.map fun name => "    this." ++ name ++ " = " ++ name ++ ";")
    (Language.name_parameters known model.fields)
  simp only [List.map_map, Function.comp_def] at names
  rw [TemplatePart.lines, Condition.decide, Placeholder.value, chosen, form]
  by_cases described : options.settings.style = some .typeOnly
  · rw [if_pos described, Options.hasStyle_iff.mpr described, Bool.not_true, Bool.and_false]
    rfl
  · rw [if_neg described, Bool.eq_false_iff.mpr (mt Options.hasStyle_iff.mp described)]
    cases options.settings.constructors with
    | false => rfl
    | true =>
        show Template.lines constructorTemplate scope = _
        rw [lines_constructorTemplate fields params]
        simp only [if_true, Form.lines, names, List.map_map, Function.comp_def]
        rfl

/-- The template writes the declaration of a model. -/
theorem lines_classTemplate (options : Options) (known : NameSet) (model : Model) :
    ∃ scope, classVariables options known model = .ok scope ∧
      Template.lines classTemplate (scope ++ Renderer.classScope options model
        (model.fields.map fun field => shownRecord (property options.settings known field))) =
        .ok (Exemplar.TypeScript.declaration options.settings known model).lines := by
  refine ⟨_, classVariables_eq options known model, ?_⟩
  generalize written : [_, _, _] ++ Renderer.classScope _ _ _ = scope
  have fields : (TemplatePart.each "field" "fields" fieldTemplate).lines scope =
      .ok (model.fields.flatMap fun field => (property options.settings known field).lines) := by
    subst written
    exact TemplatePart.lines_each rfl fun field _ last => lines_fieldTemplate _ last _
  have below := lines_form options known model scope (by subst written; rfl)
    (by subst written; rw [List.map_map]; rfl) (by subst written; rfl)
  rw [classTemplate, Template.lines, Template.lines, fields, Template.lines, below]
  subst written
  simp [Renderer.classScope, Declaration.lines, Exemplar.TypeScript.declaration,
    List.flatMap_map, String.append_assoc]

/-- A class is written as its declaration in the source tree. -/
theorem perform_writeClass {model : Model} (marked : model.Marked)
    (knows : memory.knownModels = known) :
    (renderer.writeClass options model).perform memory =
      (.ok ("\n".intercalate (Exemplar.TypeScript.declaration options.settings known model).lines),
        memory.importing (model.fields.flatMap fun field =>
          (property options.settings known field).decorators.map Decorator.importName)) := by
  obtain ⟨scope, defined, written⟩ := lines_classTemplate options known model
  exact Renderer.perform_writeClass
    (fun field present memory knows => perform_record (marked field present) knows)
    defined written (trimEnd_join _ (by decide) (by decide)) knows

/-- One line imports all decorators, and without any there is no header. -/
theorem text_headerTemplate (options : Options) (set : ModelSet) (imports : NameSet) :
    headerTemplate.text (renderer.headerVariables options set ++
        Renderer.headerScope options imports) =
      .ok (if imports = [] then ""
        else "import \x7b " ++ ", ".intercalate imports ++
          " \x7d from \"class-transformer\";\n") := by
  cases imports with
  | nil => rfl
  | cons first rest =>
      simp [Template.text, headerTemplate, renderer, Renderer.headerScope, Function.comp_def,
        String.append_assoc]

theorem trim_header (imports : NameSet) :
    String.ofList (Unicode.trim ("import \x7b " ++ ", ".intercalate imports ++
        " \x7d from \"class-transformer\";\n").toList) =
      "import \x7b " ++ ", ".intercalate imports ++ " \x7d from \"class-transformer\";" := by
  have opened : ("import \x7b " ++ ", ".intercalate imports ++
      " \x7d from \"class-transformer\";\n").toList =
        'i' :: ("mport \x7b " ++ ", ".intercalate imports).toList ++
          " \x7d from \"class-transformer\";\n".toList := by
    simp
  have trimmed : Unicode.trimEnd " \x7d from \"class-transformer\";\n".toList =
      " \x7d from \"class-transformer\";".toList := by decide
  rw [opened, Unicode.trim_append (by decide) trimmed (by decide)]
  apply String.toList_injective
  simp

/-- The rendering of marked models writes their file, and at its end it has imported the decorators
that the file carries. -/
theorem perform_write {set : ModelSet} (marked : ∀ model ∈ set.models, model.Marked) :
    (renderer.write options set).perform memory =
      (.ok (Exemplar.TypeScript.file options.settings set).text,
        ⟨set.names, (Exemplar.TypeScript.file options.settings set).imports⟩) := by
  have prepares (memory : Memory) :
      (renderer.prepare options).perform memory = (.ok (), memory.importing []) := rfl
  have collected : NameSet.ofList (set.models.flatMap (fun model =>
        model.fields.flatMap fun field =>
          (property options.settings set.names field).decorators.map Decorator.importName) ++ []) =
      (Exemplar.TypeScript.file options.settings set).imports := by
    simp [File.imports, File.decorators, Exemplar.TypeScript.file,
      Exemplar.TypeScript.declaration, List.flatMap_map, List.map_flatMap]
  rw [Renderer.perform_write
    (fun model listed memory knows => perform_writeClass (marked model listed) knows)
    prepares collected (text_headerTemplate options set _)]
  have parts : (Exemplar.TypeScript.file options.settings set).declarations.map
      (fun declared => "\n".intercalate declared.lines) =
        set.models.map fun model => "\n".intercalate
          (Exemplar.TypeScript.declaration options.settings set.names model).lines := by
    rw [Exemplar.TypeScript.file, List.map_map]
    rfl
  rw [File.text, File.importParts, parts]
  by_cases unused : (Exemplar.TypeScript.file options.settings set).imports = []
  · rw [unused]
    rfl
  · rw [if_neg unused, trim_header, if_neg (by simp), List.isEmpty_eq_false_iff.mpr unused]
    rfl

end Exemplar.Rendering.TypeScript
