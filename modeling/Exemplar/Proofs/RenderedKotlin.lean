import Exemplar.Proofs.Vocabularies

namespace Exemplar

/-- A list or an object is no key of a table. -/
def Json.isTableKey : Json → Bool
  | .array _ => false
  | .object _ => false
  | _ => true

namespace Kotlin

theorem any_serializable_file (settings : Settings) (set : ModelSet) :
    (file settings set).classes.any Class.serializable = true ↔
      settings.style = some .kotlinxSerialization := by
  simp [file, declare, ModelSet.models]

end Kotlin

namespace Rendering.Kotlin

open Exemplar.Kotlin (Class File Form KeyMarker Marker Property dialect initialValue keyMarker?
  marker? nullableType parameterLines property propertyLines)

theorem spells : vocabulary.Spells dialect where
  primitive type := by cases type <;> rfl
  dynamic := rfl
  object := rfl
  list := rfl
  zero type := by cases type <;> decide
  emptyObject := rfl
  emptyList := rfl
  fresh _ := rfl

variable {options : Options} {known : NameSet} {field : Field} {memory : Memory}

/-- A field always has an initial value, even one of unknown type. -/
theorem initialText?_eq (known : NameSet) (marked : field.Marked) :
    initialText? known field =
      .ok (some (initialValue (field.shape.resolve known) field).text) := by
  rw [initialText?, initialValue, spells.initialText? known marked]
  cases field.nullable with
  | true => rfl
  | false =>
      cases field.shape with
      | reference model =>
          rcases Shape.resolve_reference known model with resolved | resolved
          · rw [resolved]
            rfl
          · rw [resolved]
            rfl
      | _ => rfl

theorem fieldType_eq (known : NameSet) (field : Field) :
    fieldType known field = .ok (nullableType (field.shape.resolve known) field.nullable) := by
  rw [fieldType, spells.typeText]
  rfl

/-- The table has an entry for each marker of a style. -/
theorem lookup_keyAnnotations (name : String) :
    keyAnnotations.lookup name =
      ((Style.ofName? name).bind keyMarker?).map fun kind => (kind.name, kind.importName) := by
  cases found : Style.ofName? name with
  | none =>
      apply List.lookup_eq_none_iff.mpr
      intro entry member
      rw [bne_iff_ne]
      rintro rfl
      simp only [keyAnnotations, List.mem_cons, List.not_mem_nil, or_false] at member
      rcases member with rfl | rfl | rfl <;> exact absurd found (by decide)
  | some style =>
      have same : style.name = name := by
        rw [Style.ofName?] at found
        simpa using List.find?_some found
      subst same
      cases style <;> rfl

/-- Only a list or an object cannot be looked up. -/
theorem keyAnnotation?_eq (isKey : options.serializationStyle.isTableKey = true) :
    keyAnnotation? options =
      .ok ((options.settings.style.bind keyMarker?).map fun kind =>
        (kind.name, kind.importName)) := by
  change keyAnnotation? options = Except.ok ((options.style?.bind keyMarker?).map _)
  unfold keyAnnotation? Options.style?
  revert isKey
  cases options.serializationStyle with
  | string name => exact fun _ => congrArg Except.ok (lookup_keyAnnotations name)
  | array items => exact fun isKey => absurd isKey Bool.false_ne_true
  | object members => exact fun isKey => absurd isKey Bool.false_ne_true
  | _ => exact fun _ => rfl

/-- A marker is imported when it is written. Only a renamed field needs one. -/
theorem perform_annotations
    (isKey : field.isRenamed = true → options.serializationStyle.isTableKey = true) :
    (annotations options field).perform memory =
      let carried := (marker? options.settings.style field).toList
      (.ok (carried.map Marker.text),
        memory.importing (carried.map fun marker => marker.kind.importName)) := by
  rw [annotations, marker?]
  by_cases renamed : field.isRenamed = true
  · rw [if_pos renamed, if_pos renamed, keyAnnotation?_eq (isKey renamed),
      perform_bind_ok (perform_attempt _)]
    cases options.settings.style.bind keyMarker? <;> rfl
  · rw [if_neg renamed, if_neg renamed]
    rfl

/-- This record shows a property. -/
def shownRecord (form : Form) (property : Property) : Json :=
  .object
    [("name", .string property.name),
     ("type", .string (nullableType property.type property.nullable)),
     ("declaration", .string (property.text form)),
     ("annotations", .array (property.marker.toList.map fun marker => .string marker.text))]

/-- The form of a class says how its properties are declared. -/
def chosenForm (settings : Settings) : Form :=
  if settings.constructors then .data else .plain

theorem declaration_eq (options : Options) (known : NameSet) (marked : field.Marked) :
    declaration options known field (nullableType (field.shape.resolve known) field.nullable) =
      .ok ((property options.settings known field).text (chosenForm options.settings)) := by
  have constructors : options.includeConstructor.truthy = options.settings.constructors := rfl
  rw [declaration, initialText?_eq known marked, constructors, chosenForm, Property.text, property]
  cases options.settings.constructors with
  | false => simp [ok_bind, Form.keyword, String.append_assoc]
  | true =>
      cases nullable : field.nullable with
      | false => simp [Form.keyword, String.append_assoc]
      | true =>
          simp [Form.keyword, initialValue, nullable, Exemplar.Kotlin.InitialValue.text,
            String.append_assoc]

/-- The record of a field shows its property. -/
theorem perform_record
    (isKey : field.isRenamed = true → options.serializationStyle.isTableKey = true)
    (marked : field.Marked) (knows : memory.knownModels = known) :
    (record options field).perform memory =
      (.ok (shownRecord (chosenForm options.settings) (property options.settings known field)),
        memory.importing
          ((marker? options.settings.style field).toList.map fun marker =>
            marker.kind.importName)) := by
  subst knows
  rw [record, perform_bind_ok perform_knownModels, fieldType_eq,
    perform_bind_ok (perform_attempt _), declaration_eq _ _ marked,
    perform_bind_ok (perform_attempt _), perform_bind_ok (perform_annotations isKey),
    perform_pure, List.map_map]
  rfl

/-- The template writes a property below its marker, with a text behind it. -/
theorem lines_fieldParts (form : Form) (property : Property) (last : Bool) (rest : List Piece)
    {ending : String} (scope : Scope)
    (ended : Piece.writeAll (scope.within "field" (shownRecord form property) last) rest =
      .ok ending) :
    Template.lines (fieldParts rest) (scope.within "field" (shownRecord form property) last) =
      .ok (property.markerLines ++ ["    " ++ property.text form ++ ending]) := by
  have annotated : (TemplatePart.each "field_annotation" (.part "field" "annotations")
      [.line ["    ", .shown "field_annotation"]]).lines
        (scope.within "field" (shownRecord form property) last) =
      .ok (property.marker.toList.map fun marker => "    " ++ marker.text) := by
    apply TemplatePart.lines_each_line rfl
    intro marker _ last
    simp [Scope.within]
  have marked : (property.marker.toList.map fun marker => "    " ++ marker.text) =
      property.markerLines := by
    rw [Property.markerLines]
    cases property.marker <;> rfl
  rw [fieldParts, Template.lines, annotated, marked]
  simp [ended]
  simp [Scope.within, shownRecord, String.append_assoc]

/-- All parameters but the last one end in a comma. -/
theorem repeatFor_parameters (properties : List Property) (scope : Scope) :
    repeatFor (fun item last =>
        Template.lines (fieldParts [.chosen (.fails (.part "loop" "last")) ","])
          (scope.within "field" item last)) (properties.map (shownRecord .data)) =
      .ok (parameterLines properties) := by
  have written (property : Property) (last : Bool) :=
    lines_fieldParts .data property last [.chosen (.fails (.part "loop" "last")) ","] scope
      (show _ = Except.ok (if last then "" else ",") by cases last <;> simp [Scope.within])
  induction properties with
  | nil => rfl
  | cons property rest inductionHypothesis =>
      cases rest with
      | nil =>
          rw [List.map_singleton, repeatFor, written, parameterLines, if_pos rfl,
            String.append_empty]
      | cons next later =>
          rw [List.map_cons, List.map_cons, repeatFor, written, ← List.map_cons,
            inductionHypothesis]
          rfl

section Templates

variable {model : Model} {scope : Scope}

/-- The template writes the annotation of a class only in the style that has it. -/
theorem lines_above (annotated : Json.member? "annotation" scope =
      some (if options.hasStyle .kotlinxSerialization then .string "@Serializable" else .null)) :
    (TemplatePart.choice (.holds "annotation") [.line [.shown "annotation"]] []).lines scope =
      .ok (if options.settings.style = some .kotlinxSerialization then ["@Serializable"]
        else []) := by
  by_cases serializable : options.settings.style = some .kotlinxSerialization
  · rw [Options.hasStyle_iff.mpr serializable] at annotated
    simp [annotated, serializable]
  · rw [if_neg (mt Options.hasStyle_iff.mp serializable)] at annotated
    simp [annotated, serializable, Json.truthy]

theorem lines_dataTemplate (settings : Settings) (known : NameSet)
    (constructed : settings.constructors = true)
    (name : Json.member? "name" scope = some (.string model.name))
    (fields : Json.member? "fields" scope = some (.array (model.fields.map fun field =>
      shownRecord (chosenForm settings) (property settings known field)))) :
    Template.lines dataTemplate scope =
      .ok (["data class " ++ model.name ++ "("] ++
        parameterLines (model.fields.map (property settings known)) ++ [")"]) := by
  rw [chosenForm, if_pos constructed] at fields
  have parameters := repeatFor_parameters (model.fields.map (property settings known)) scope
  rw [List.map_map, Function.comp_def] at parameters
  simp [dataTemplate, name, fields, parameters, String.append_assoc]

theorem lines_plainTemplate (settings : Settings) (known : NameSet)
    (constructed : settings.constructors = false)
    (name : Json.member? "name" scope = some (.string model.name))
    (fields : Json.member? "fields" scope = some (.array (model.fields.map fun field =>
      shownRecord (chosenForm settings) (property settings known field)))) :
    Template.lines plainTemplate scope =
      .ok (["class " ++ model.name ++ " \x7b"] ++
        propertyLines (model.fields.map (property settings known)) ++ ["\x7d"]) := by
  rw [chosenForm, constructed] at fields
  have properties : (TemplatePart.each "field" "fields" (fieldParts [])).lines scope =
      .ok (propertyLines (model.fields.map (property settings known))) := by
    rw [propertyLines, List.flatMap_map]
    apply TemplatePart.lines_each (by rw [Placeholder.value, fields, Lookup.found_some])
    intro field _ last
    have written := lines_fieldParts .plain (property settings known field) last [] scope rfl
    rwa [String.append_empty] at written
  simp only [plainTemplate, Template.lines, properties]
  simp [name, String.append_assoc]

/-- The template writes the class of a model, but it keeps blanks at the end of a name. -/
theorem lines_class
    (annotated : Json.member? "annotation" scope =
      some (if options.hasStyle .kotlinxSerialization then .string "@Serializable" else .null))
    (chosen : Json.member? "data_class" scope =
      some (.boolean (options.settings.constructors && !model.fields.isEmpty)))
    (name : Json.member? "name" scope = some (.string model.name))
    (fields : Json.member? "fields" scope = some (.array (model.fields.map fun field =>
      shownRecord (chosenForm options.settings) (property options.settings known field)))) :
    ∃ lines, Template.lines classTemplate scope = .ok lines ∧
      Unicode.trimEnd (String.join (lines.map fun line => line ++ "\n")).toList =
        ("\n".intercalate (Exemplar.Kotlin.declare options.settings known model).lines).toList := by
  have above := lines_above annotated
  rw [Exemplar.Kotlin.declare, Class.lines]
  simp only [decide_eq_true_eq]
  generalize (if options.settings.style = some .kotlinxSerialization then ["@Serializable"]
    else []) = marks at above ⊢
  by_cases empty : model.fields = []
  · have visible : 'c' ∈ ("class " ++ model.name).toList := by simp
    rw [empty] at chosen fields ⊢
    refine ⟨_, ?_, trimEnd_join_visible _ visible (by decide)⟩
    rw [classTemplate, Template.lines, above]
    simp [chosen, fields, name]
  · obtain ⟨first, rest, filled⟩ := List.exists_cons_of_ne_nil empty
    have present : (Json.array (model.fields.map fun field => shownRecord
        (chosenForm options.settings) (property options.settings known field))).truthy = true := by
      simp [filled]
    have isFilled : model.fields.isEmpty = false := by simp [filled]
    cases constructed : options.settings.constructors with
    | true =>
        have closed : Unicode.trimEnd ")".toList = ")".toList := by decide
        have written := lines_dataTemplate options.settings known constructed name fields
        rw [constructed, isFilled] at chosen
        rw [filled, List.map_cons] at written ⊢
        show ∃ lines, _ ∧ _ = ("\n".intercalate (marks ++
          (["data class " ++ model.name ++ "("] ++ parameterLines _ ++ [")"]))).toList
        rw [← List.append_assoc]
        refine ⟨_, ?_, trimEnd_join _ closed (by decide)⟩
        rw [classTemplate, Template.lines, above]
        simp [chosen, written]
    | false =>
        have closed : Unicode.trimEnd "\x7d".toList = "\x7d".toList := by decide
        have written := lines_plainTemplate options.settings known constructed name fields
        rw [constructed] at chosen
        rw [filled, List.map_cons] at written ⊢
        show ∃ lines, _ ∧ _ = ("\n".intercalate (marks ++
          (["class " ++ model.name ++ " \x7b"] ++ propertyLines _ ++ ["\x7d"]))).toList
        rw [← List.append_assoc]
        refine ⟨_, ?_, trimEnd_join _ closed (by decide)⟩
        rw [classTemplate, Template.lines, above]
        simp [chosen, fields, present, written]

end Templates

/-- The template writes the lines of a class, but it keeps blanks at the end of a name. -/
theorem lines_classTemplate (options : Options) (known : NameSet) (model : Model) :
    ∃ scope lines, classVariables options known model = .ok scope ∧
      Template.lines classTemplate (scope ++ Renderer.classScope options model
        (model.fields.map fun field =>
          shownRecord (chosenForm options.settings) (property options.settings known field))) =
        .ok lines ∧
      Unicode.trimEnd (String.join (lines.map fun line => line ++ "\n")).toList =
        ("\n".intercalate (Exemplar.Kotlin.declare options.settings known model).lines).toList :=
  ⟨_, (lines_class rfl rfl rfl rfl).imp fun _ written => ⟨rfl, written⟩⟩

/-- A class is written as it stands in the source tree. -/
theorem perform_writeClass {model : Model}
    (isKey : ∀ field ∈ model.fields,
      field.isRenamed = true → options.serializationStyle.isTableKey = true)
    (marked : model.Marked) (knows : memory.knownModels = known) :
    (renderer.writeClass options model).perform memory =
      (.ok ("\n".intercalate (Exemplar.Kotlin.declare options.settings known model).lines),
        memory.importing (model.fields.flatMap fun field =>
          (marker? options.settings.style field).toList.map fun marker =>
            marker.kind.importName)) := by
  obtain ⟨scope, lines, defined, written, trimmed⟩ := lines_classTemplate options known model
  exact Renderer.perform_writeClass
    (fun field present memory knows =>
      perform_record (isKey field present) (marked field present) knows)
    defined written trimmed knows

theorem packageText_eq (options : Options) :
    (if options.packageName.truthy then options.packageName
      else .string Options.defaultPackage).plainText = options.packageText := by
  rw [Options.packageText]
  split <;> rfl

/-- Each import has a line of its own below the package. -/
theorem lines_headerTemplate (options : Options) (set : ModelSet) (imports : NameSet) :
    Template.lines headerTemplate
        (headerVariables options set ++ Renderer.headerScope options imports) =
      .ok (("package " ++ options.packageText) ::
        if imports = [] then [] else "" :: imports.map fun name => "import " ++ name) := by
  have imported : (TemplatePart.each "import" "imports"
      [.line ["import ", .shown "import"]]).lines
        (headerVariables options set ++ Renderer.headerScope options imports) =
      .ok (imports.map fun name => "import " ++ name) := by
    apply TemplatePart.lines_each_line rfl
    intro name _ last
    simp [Scope.within]
  have package := packageText_eq options
  cases imports with
  | nil => simp [headerTemplate, headerVariables, Renderer.headerScope, package]
  | cons first rest =>
      simp only [headerTemplate, Template.lines]
      rw [TemplatePart.lines, TemplatePart.lines]
      simp only [Template.lines, imported]
      simp [headerVariables, Renderer.headerScope, package]

/-- The header keeps the blanks at the end of the package only when imports follow it. -/
theorem trim_header (package : String) {imports : NameSet}
    (closed : ∀ name ∈ imports, Unicode.trimEnd ("import " ++ name).toList =
      ("import " ++ name).toList) :
    Unicode.trim (String.join ((("package " ++ package) ::
        if imports = [] then [] else "" :: imports.map fun name => "import " ++ name).map
          fun line => line ++ "\n")).toList =
      if imports = [] then Unicode.trimEnd ("package " ++ package).toList
      else ("package " ++ package ++ "\n\n" ++
        "\n".intercalate (imports.map fun name => "import " ++ name)).toList := by
  rw [trim_join _ String.toList_append (by decide)]
  rcases List.eq_nil_or_concat imports with rfl | ⟨earlier, last, rfl⟩
  · have visible : 'p' ∈ ("package " ++ package).toList := by simp
    have trimmed := trimEnd_join_visible [] visible (by decide)
    rw [List.nil_append, List.nil_append, String.intercalate_singleton,
      String.toList_ofList] at trimmed
    exact trimmed
  · have trimmed := trimEnd_join
      (("package " ++ package) :: "" :: earlier.map fun name => "import " ++ name)
      (closed last (by simp)) (by simp)
    have joined : (earlier.concat last).map (fun name => "import " ++ name) =
        (earlier.map fun name => "import " ++ name) ++ ["import " ++ last] := by simp
    rw [if_neg (by simp), if_neg (by simp), joined]
    apply trimmed.trans
    rw [List.cons_append, List.cons_append, String.intercalate_cons_of_ne_nil (by simp),
      String.intercalate_cons_of_ne_nil (by simp)]
    simp [String.append_assoc]

theorem text_headerTemplate (options : Options) (set : ModelSet) (imports : NameSet) :
    headerTemplate.text (renderer.headerVariables options set ++
        Renderer.headerScope options imports) =
      .ok (String.join ((("package " ++ options.packageText) ::
        if imports = [] then [] else "" :: imports.map fun name => "import " ++ name).map
          fun line => line ++ "\n")) := by
  rw [Template.text]
  show (do .ok (String.join ((← Template.lines headerTemplate
    (headerVariables options set ++ Renderer.headerScope options imports)).map _))) = _
  rw [lines_headerTemplate]
  rfl

/-- The imports of a file do not end in blanks. -/
theorem trimEnd_import {file : File} :
    ∀ name ∈ file.imports,
      Unicode.trimEnd ("import " ++ name).toList = ("import " ++ name).toList := by
  intro name imported
  rw [File.imports, NameSet.mem_ofList, List.mem_append, List.mem_map] at imported
  rcases imported with annotation | ⟨marker, _, rfl⟩
  · split at annotation
    · rw [List.mem_singleton.mp annotation]
      decide
    · cases annotation
  · cases marker.kind <;> decide

/-- The imports that are added class by class, and then for the header, are those of the file. -/
theorem ofList_added (settings : Settings) (set : ModelSet) :
    NameSet.ofList (set.models.flatMap (fun model => model.fields.flatMap fun field =>
        (marker? settings.style field).toList.map fun marker => marker.kind.importName) ++
      if settings.style = some .kotlinxSerialization then
        [Exemplar.Kotlin.serializableImport] else []) =
      (Exemplar.Kotlin.file settings set).imports := by
  have serializable : (if settings.style = some .kotlinxSerialization then
        [Exemplar.Kotlin.serializableImport] else []) =
      if (Exemplar.Kotlin.file settings set).classes.any Class.serializable then
        [Exemplar.Kotlin.serializableImport] else [] :=
    if_congr (Exemplar.Kotlin.any_serializable_file settings set).symm rfl rfl
  have added : (set.models.flatMap fun model => model.fields.flatMap fun field =>
        (marker? settings.style field).toList.map fun marker => marker.kind.importName) =
      (Exemplar.Kotlin.file settings set).markers.map fun marker => marker.kind.importName := by
    simp [File.markers, Exemplar.Kotlin.file, Exemplar.Kotlin.declare, property,
      List.flatMap_map, List.map_flatMap, List.filterMap_eq_flatMap_toList]
  rw [File.imports, serializable, added]
  apply NameSet.ofList_congr
  intro name
  rw [List.mem_append, List.mem_append, or_comm]

/-- The rendering of marked models writes their file, and at its end it has imported the annotations
that the file carries. -/
theorem perform_write {set : ModelSet}
    (isKey : ∀ model ∈ set.models, ∀ field ∈ model.fields,
      field.isRenamed = true → options.serializationStyle.isTableKey = true)
    (marked : ∀ model ∈ set.models, model.Marked) :
    (renderer.write options set).perform memory =
      (.ok (Exemplar.Kotlin.file options.settings set).text,
        ⟨set.names, (Exemplar.Kotlin.file options.settings set).imports⟩) := by
  have prepares (memory : Memory) : (renderer.prepare options).perform memory =
      (.ok (), memory.importing (if options.settings.style = some .kotlinxSerialization then
        [Exemplar.Kotlin.serializableImport] else [])) := by
    show (prepare options).perform memory = _
    rw [prepare]
    by_cases serializable : options.settings.style = some .kotlinxSerialization
    · rw [if_pos (Options.hasStyle_iff.mpr serializable), if_pos serializable]
      rfl
    · rw [if_neg (mt Options.hasStyle_iff.mp serializable), if_neg serializable]
      rfl
  rw [Renderer.perform_write
    (fun model listed memory knows =>
      perform_writeClass (isKey model listed) (marked model listed) knows)
    prepares (ofList_added options.settings set) (text_headerTemplate options set _),
    trim_header _ trimEnd_import]
  have parts : (Exemplar.Kotlin.file options.settings set).classes.map
      (fun declared => "\n".intercalate declared.lines) =
        set.models.map fun model => "\n".intercalate
          (Exemplar.Kotlin.declare options.settings set.names model).lines := by
    rw [Exemplar.Kotlin.file, List.map_map]
    rfl
  rw [File.text, File.header, parts]
  have opens (later : String) : ("package " ++ options.packageText ++ later) ≠ "" := by simp
  by_cases unused : (Exemplar.Kotlin.file options.settings set).imports = []
  · rw [if_pos unused, unused]
    have visible := Unicode.trimEnd_ne_nil
      (show 'p' ∈ ("package " ++ options.packageText).toList by simp) (by decide)
    rw [if_neg (by simpa using visible)]
    rfl
  · rw [if_neg unused, String.ofList_toList, String.append_assoc, if_neg (opens _),
      ← String.append_assoc, List.singleton_append, intercalate_append_cons,
      List.isEmpty_eq_false_iff.mpr unused]
    rfl

end Rendering.Kotlin

end Exemplar
