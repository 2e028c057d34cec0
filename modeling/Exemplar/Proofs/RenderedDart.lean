import Exemplar.Proofs.Vocabularies

namespace Exemplar.Rendering.Dart

open Exemplar.Dart (Class Constructor Entry File Parameter Property Routines constructor
  dialect endStatement entry mapItems nullableType parameter property read readModel routines)

theorem spells : vocabulary.Spells dialect where
  primitive type := by cases type <;> rfl
  dynamic := rfl
  object := rfl
  list := rfl
  zero type := by cases type <;> decide
  emptyObject := rfl
  emptyList := rfl
  fresh _ := rfl

variable {options : Options} {known : NameSet} {field : Field} {memory : Memory}

theorem initialText?_eq (known : NameSet) (marked : field.Marked) :
    initialText? known field =
      .ok ((Exemplar.Dart.initializer? (field.shape.resolve known) field).map
        dialect.initializer) := by
  rw [initialText?, Exemplar.Dart.initializer?, spells.initialText?_eq rfl known marked]
  by_cases unknown : field.shape = .dynamic
  · rw [unknown, if_pos (.inr rfl)]
    cases field.nullable <;> rfl
  · cases field.nullable <;> simp [unknown]

theorem fieldType_eq (known : NameSet) (field : Field) :
    fieldType known field = .ok (nullableType (field.shape.resolve known) field.nullable) := by
  rw [fieldType, spells.typeText]
  rfl

theorem writeText_eq (known : NameSet) (field : Field) :
    writeText known field = (entry known field).writeText := by
  rw [writeText, Shape.knownModel?_eq, entry, Entry.writeText]
  cases field.shape with
  | list item =>
      rw [Shape.item?, Option.bind_some, Shape.knownModel?_eq, Shape.resolve]
      cases item.resolve known <;> rfl
  | reference model =>
      rcases Shape.resolve_reference known model with resolved | resolved
      · rw [resolved]
        rfl
      · rw [resolved]
        rfl
  | _ => rfl

/-- The items of a list are converted as in the source tree. -/
theorem itemRead?_list (known : NameSet) (item : Shape) :
    itemRead? known (.list item) =
      match read (.list (item.resolve known)) with
      | .models name => some (mapItems (readModel name "e"))
      | .numbers conversion => some (mapItems ("(e as num)." ++ conversion.text))
      | _ => none := by
  have ofModel (name : String) : "map((e) => " ++ name ++ ".fromJson(e as " ++ jsonMap ++
      ")).toList()" = mapItems (readModel name "e") := by
    apply String.toList_injective
    simp [mapItems, readModel, jsonMap, Exemplar.Dart.objectType]
  cases item with
  | primitive type => cases type <;> rfl
  | reference model =>
      show ((Shape.reference model).knownModel? known).bind _ = _
      rw [Shape.knownModel?_eq]
      rcases Shape.resolve_reference known model with resolved | resolved
      · rw [resolved]
        exact congrArg some (ofModel model)
      · rw [resolved]
        rfl
  | _ => rfl

/-- A field whose value and items are no models is read as in the source tree. -/
theorem plainRead_eq (known : NameSet) (field : Field) (access : String) :
    plainRead known field access =
      .ok (match field.shape with
        | .primitive .integer => (Exemplar.Dart.Read.number .toInt).text field.nullable access
        | .primitive .float => (Exemplar.Dart.Read.number .toDouble).text field.nullable access
        | .dynamic => access
        | .list _ =>
            (Exemplar.Dart.Read.copy (field.shape.resolve known)).text field.nullable access
        | _ =>
            (Exemplar.Dart.Read.cast (field.shape.resolve known)).text field.nullable access) := by
  rw [plainRead, fieldType_eq, spells.typeText]
  cases field.shape with
  | primitive type => cases type <;> rfl
  | _ => rfl

/-- An entry reads its field as in the source tree. -/
theorem readText_eq (known : NameSet) (field : Field) :
    readText known field = .ok (entry known field).readText := by
  rw [readText, Shape.knownModel?_eq, entry, Entry.readText, plainRead_eq]
  cases shape : field.shape with
  | list item =>
      rw [itemRead?_list, Shape.resolve]
      cases item.resolve known with
      | primitive type => cases type <;> rfl
      | _ => rfl
  | reference model =>
      rcases Shape.resolve_reference known model with resolved | resolved
      · rw [resolved]
        rfl
      · rw [resolved]
        rfl
  | primitive type => cases type <;> rfl
  | _ => rfl

theorem endStatement_append (earlier : List String) (last : String) :
    endStatement (earlier ++ [last]) = earlier ++ [last ++ ";"] := by
  induction earlier with
  | nil => rfl
  | cons first rest inductionHypothesis =>
      cases rest with
      | nil => rfl
      | cons next later =>
          rw [List.cons_append, List.cons_append, endStatement, ← List.cons_append,
            inductionHypothesis]
          · rfl
          · simp

/-- Only the last line of a statement changes. -/
theorem closed_eq (lines : List String) : closed lines = endStatement lines := by
  rcases List.eq_nil_or_concat lines with rfl | ⟨earlier, last, rfl⟩
  · rfl
  · rw [List.concat_eq_append, endStatement_append]
    simp [closed]

theorem mapM_readText (known : NameSet) (fields : List Field) (line : Field → String → String) :
    (fields.mapM fun field => do .ok (line field (← readText known field))) =
      .ok (fields.map fun field => line field (entry known field).readText) := by
  simp only [readText_eq, ok_bind]
  exact List.mapM_pure

/-- Without a named constructor the fields are assigned to a fresh object. -/
theorem readLines_of_unnamed {settings : Settings} {model : Model}
    (unnamed : ¬ (settings.constructors = true ∧ model.fields ≠ [])) (entries : List Entry) :
    Exemplar.Dart.readLines model.name (constructor settings model) entries =
      endStatement (("return " ++ model.name ++ "()") ::
        entries.map fun entry => "  .." ++ entry.name ++ " = " ++ entry.readText) := by
  rw [constructor, if_neg unnamed]
  split <;> rfl

/-- The reading routine has the statements of the source tree. -/
theorem readLines_eq (options : Options) (known : NameSet) (model : Model) :
    readLines options known model =
      .ok (Exemplar.Dart.readLines model.name (constructor options.settings model)
        (model.fields.map (entry known))) := by
  have constructors : options.includeConstructor.truthy = options.settings.constructors := rfl
  rw [readLines, mapM_readText, mapM_readText, constructors]
  by_cases named : options.settings.constructors = true ∧ model.fields ≠ []
  · rw [if_neg (by simp [named.2]), if_pos named.1, constructor, if_pos named,
      Exemplar.Dart.readLines, List.map_map]
    rfl
  · rw [readLines_of_unnamed named]
    cases fields : model.fields with
    | nil => simp [endStatement, String.append_assoc]
    | cons first rest =>
        have unconstructed : ¬ options.settings.constructors = true := fun constructed =>
          named ⟨constructed, by simp [fields]⟩
        rw [if_neg (by simp), if_neg unconstructed, List.map_map, ok_bind, closed_eq]
        rfl

/-- This function writes the declaration of a property. -/
def declarationText (property : Property) : String :=
  (if property.final then "final " else "") ++ nullableType property.type property.nullable ++
    " " ++ property.name ++
    (match property.initializer with
      | some value => " = " ++ dialect.initializer value
      | none => "") ++ ";"

/-- A property may carry an annotation for its key. -/
def keyTexts (property : Property) : List String :=
  match property.key with
  | some key => ["@JsonKey(name: " ++ Dart.quoted key ++ ")"]
  | none => []

theorem lines_property (property : Property) :
    property.lines = (keyTexts property).map (fun text => "  " ++ text) ++
      ["  " ++ declarationText property] := by
  have opening (key : String) : "  @JsonKey(name: " ++ Dart.quoted key ++ ")" =
      "  " ++ ("@JsonKey(name: " ++ Dart.quoted key ++ ")") := by
    apply String.toList_injective
    simp
  cases key : property.key <;> cases initial : property.initializer <;>
    simp only [Property.lines, keyTexts, declarationText, key, initial, opening,
      String.append_assoc] <;>
    rfl

theorem declaration_eq (options : Options) (known : NameSet) (marked : field.Marked) :
    declaration options known field (nullableType (field.shape.resolve known) field.nullable) =
      .ok (declarationText (property options.settings known field)) := by
  have constructors : options.includeConstructor.truthy = options.settings.constructors := rfl
  rw [declaration, initialText?_eq known marked, constructors, declarationText, property]
  cases options.settings.constructors with
  | true => simp [String.append_assoc]
  | false =>
      cases Exemplar.Dart.initializer? (field.shape.resolve known) field <;>
        simp [ok_bind, String.append_assoc]

theorem annotations_eq (options : Options) (known : NameSet) (field : Field) :
    annotations options field = keyTexts (property options.settings known field) := by
  rw [annotations, keyTexts, property]
  by_cases annotated : options.settings.style = some .jsonSerializable ∧ field.isRenamed = true
  · rw [if_pos annotated, if_pos ⟨Options.hasStyle_iff.mpr annotated.1, annotated.2⟩]
  · rw [if_neg annotated,
      if_neg fun chosen => annotated ⟨Options.hasStyle_iff.mp chosen.1, chosen.2⟩]

/-- This record shows the property, the parameter and the entry of a field. -/
def shownRecord (settings : Settings) (known : NameSet) (field : Field) : Json :=
  .object
    [("name", .string field.name),
     ("type", .string (nullableType (field.shape.resolve known) field.nullable)),
     ("declaration", .string (declarationText (property settings known field))),
     ("annotations", .array ((keyTexts (property settings known field)).map Json.string)),
     ("required", .boolean (parameter field).required),
     ("json_key", .string (Dart.quoted field.key)),
     ("to_json", .string (entry known field).writeText)]

theorem perform_record (marked : field.Marked) (knows : memory.knownModels = known) :
    (record options field).perform memory =
      (.ok (shownRecord options.settings known field), memory.importing []) := by
  subst knows
  rw [record, perform_bind_ok perform_knownModels, fieldType_eq,
    perform_bind_ok (perform_attempt _), declaration_eq _ _ marked,
    perform_bind_ok (perform_attempt _), perform_pure, annotations_eq options memory.knownModels,
    writeText_eq]
  rfl

theorem lines_fieldTemplate (settings : Settings) (known : NameSet) (field : Field) (last : Bool)
    (scope : Scope) :
    Template.lines fieldTemplate (scope.within "field" (shownRecord settings known field) last) =
      .ok (property settings known field).lines := by
  have annotated : (TemplatePart.each "field_annotation" (.part "field" "annotations")
      [.line ["  ", .shown "field_annotation"]]).lines
        (scope.within "field" (shownRecord settings known field) last) =
      .ok ((keyTexts (property settings known field)).map fun text => "  " ++ text) := by
    apply TemplatePart.lines_each_line rfl
    intro text _ last
    simp [Scope.within]
  rw [fieldTemplate, Template.lines, annotated]
  simp [Scope.within, shownRecord, lines_property]

section Templates

variable {scope : Scope} {model : Model} {settings : Settings}

theorem lines_namedTemplate
    (name : Json.member? "name" scope = some (.string model.name))
    (fields : Json.member? "fields" scope =
      some (.array (model.fields.map (shownRecord settings known)))) :
    Template.lines namedTemplate scope =
      .ok ((Constructor.named (model.fields.map parameter)).lines model.name) := by
  have announced : (TemplatePart.each "field" "fields"
      [.line ["    ", .chosen (.holds (.part "field" "required")) "required ", "this.",
        .shown (.part "field" "name"), ","]]).lines scope =
      .ok (model.fields.map fun field => (parameter field).line) := by
    apply TemplatePart.lines_each_line (by rw [Placeholder.value, fields, Lookup.found_some])
    intro field _ last
    simp [Scope.within, shownRecord, Parameter.line, parameter, String.append_assoc]
  simp only [namedTemplate, Template.lines, announced]
  simp [name, Constructor.lines, String.append_assoc]

/-- The kind of a constructor tells its form. -/
theorem constructorKind_cases (options : Options) (model : Model) :
    (constructor options.settings model = .named (model.fields.map parameter) ∧
      constructorKind options model = .string "named") ∨
    (constructor options.settings model = .empty ∧
      constructorKind options model = .string "default") ∨
    (constructor options.settings model = .implicit ∧ constructorKind options model = .null) := by
  have constructors : options.includeConstructor.truthy = options.settings.constructors := rfl
  have plain : options.hasStyle .plain = decide (options.settings.style = some .plain) := by
    rw [Bool.eq_iff_iff, Options.hasStyle_iff, decide_eq_true_iff]
  rw [constructor, constructorKind, constructors, plain]
  cases options.settings.constructors with
  | false =>
      by_cases isPlain : options.settings.style = some .plain
      · exact .inr (.inr (by simp [isPlain]))
      · exact .inr (.inl (by simp [isPlain]))
  | true =>
      by_cases empty : model.fields = []
      · exact .inr (.inl (by simp [empty]))
      · exact .inl (by simp [empty])

/-- Each form of a constructor is written, and the implicit one is left out. -/
theorem lines_constructor
    (chosen : Json.member? "constructor" scope = some (constructorKind options model))
    (name : Json.member? "name" scope = some (.string model.name))
    (fields : Json.member? "fields" scope =
      some (.array (model.fields.map (shownRecord options.settings known)))) :
    (TemplatePart.choice (.isText "constructor" "named") namedTemplate
      [.choice (.isText "constructor" "default")
        [.line [], .line ["  ", .shown "name", "();"]] []]).lines scope =
      .ok ((constructor options.settings model).lines model.name) := by
  have named := lines_namedTemplate name fields
  obtain ⟨form, kind⟩ | ⟨form, kind⟩ | ⟨form, kind⟩ := constructorKind_cases options model
  · rw [kind] at chosen
    simp [chosen, form, named, Json.isText]
  · rw [kind] at chosen
    simp [chosen, form, name, Json.isText, Constructor.lines, String.append_assoc]
  · rw [kind] at chosen
    simp [chosen, form, Json.isText, Constructor.lines]

theorem lines_generatedTemplate (name : Json.member? "name" scope = some (.string model.name))
    (declared : Constructor) :
    Template.lines generatedTemplate scope =
      .ok (Routines.generated.lines model.name declared) := by
  have reading (name : String) : Exemplar.Dart.fromJsonHeader name ++ " => _$" ++ name ++
      "FromJson(json);" = "  factory " ++ (name ++
        (".fromJson(Map<String, dynamic> json) => _$" ++ (name ++ "FromJson(json);"))) := by
    apply String.toList_injective
    simp [Exemplar.Dart.fromJsonHeader, Exemplar.Dart.objectType]
  have writing (name : String) : Exemplar.Dart.toJsonHeader ++ " => _$" ++ name ++
      "ToJson(this);" = "  Map<String, dynamic> toJson() => _$" ++ (name ++ "ToJson(this);") := by
    apply String.toList_injective
    simp [Exemplar.Dart.toJsonHeader, Exemplar.Dart.objectType]
  simp [generatedTemplate, name, Routines.lines, reading, writing]

theorem lines_writtenTemplate (name : Json.member? "name" scope = some (.string model.name))
    (fields : Json.member? "fields" scope =
      some (.array (model.fields.map (shownRecord settings known))))
    (body : Json.member? "from_json_body" scope =
      some (.array ((Exemplar.Dart.readLines model.name (constructor settings model)
        (model.fields.map (entry known))).map Json.string))) :
    Template.lines writtenTemplate scope =
      .ok ((Routines.written (model.fields.map (entry known))).lines model.name
        (constructor settings model)) := by
  have reads : (TemplatePart.each "line" "from_json_body"
      [.line ["    ", .shown "line"]]).lines scope =
      .ok ((Exemplar.Dart.readLines model.name (constructor settings model)
        (model.fields.map (entry known))).map fun line => "    " ++ line) := by
    apply TemplatePart.lines_each_line (by rw [Placeholder.value, body, Lookup.found_some])
    intro line _ last
    simp [Scope.within]
  have writes : (TemplatePart.each "field" "fields"
      [.line ["      ", .shown (.part "field" "json_key"), ": ",
        .shown (.part "field" "to_json"), ","]]).lines scope =
      .ok ((model.fields.map (entry known)).map fun entry =>
        "      " ++ Dart.quoted entry.key ++ ": " ++ entry.writeText ++ ",") := by
    rw [List.map_map]
    apply TemplatePart.lines_each_line (by rw [Placeholder.value, fields, Lookup.found_some])
    intro field _ last
    simp [Scope.within, shownRecord, entry, String.append_assoc]
  have reading : "  factory " ++ (model.name ++ ".fromJson(Map<String, dynamic> json) \x7b") =
      Exemplar.Dart.fromJsonHeader model.name ++ " \x7b" := by
    apply String.toList_injective
    simp [Exemplar.Dart.fromJsonHeader, Exemplar.Dart.objectType]
  have writing : Exemplar.Dart.toJsonHeader ++ " \x7b" =
      "  Map<String, dynamic> toJson() \x7b" := by decide
  simp only [writtenTemplate, Template.lines, reads, writes]
  simp [name, Routines.lines, reading, writing]

/-- The style decides which routines are written. -/
theorem lines_routines (style : Json.member? "style" scope = some options.serializationStyle)
    (name : Json.member? "name" scope = some (.string model.name))
    (fields : Json.member? "fields" scope =
      some (.array (model.fields.map (shownRecord options.settings known))))
    (body : options.settings.style = some .fromJsonToJson →
      Json.member? "from_json_body" scope =
        some (.array ((Exemplar.Dart.readLines model.name (constructor options.settings model)
          (model.fields.map (entry known))).map Json.string))) :
    (TemplatePart.choice (.isText "style" "json-serializable") generatedTemplate
      [.choice (.isText "style" "from-json-to-json") writtenTemplate []]).lines scope =
      .ok ((routines options.settings known model).lines model.name
        (constructor options.settings model)) := by
  have generated : options.serializationStyle.isText "json-serializable" = true ↔
      options.settings.style = some .jsonSerializable :=
    @Options.hasStyle_iff options .jsonSerializable
  have written : options.serializationStyle.isText "from-json-to-json" = true ↔
      options.settings.style = some .fromJsonToJson :=
    @Options.hasStyle_iff options .fromJsonToJson
  rw [routines]
  by_cases isGenerated : options.settings.style = some .jsonSerializable
  · have lines := lines_generatedTemplate name (constructor options.settings model)
    rw [if_pos isGenerated]
    simp [style, generated.mpr isGenerated, lines]
  · rw [if_neg isGenerated]
    by_cases isWritten : options.settings.style = some .fromJsonToJson
    · have lines := lines_writtenTemplate name fields (body isWritten)
      rw [if_pos isWritten]
      simp [style, mt generated.mp isGenerated, written.mpr isWritten, lines]
    · rw [if_neg isWritten]
      simp [style, mt generated.mp isGenerated, mt written.mp isWritten, Routines.lines]

/-- The template writes the class of a model. -/
theorem lines_class
    (annotated : Json.member? "annotation" scope =
      some (if options.hasStyle .jsonSerializable then .string "@JsonSerializable()" else .null))
    (chosen : Json.member? "constructor" scope = some (constructorKind options model))
    (style : Json.member? "style" scope = some options.serializationStyle)
    (name : Json.member? "name" scope = some (.string model.name))
    (fields : Json.member? "fields" scope =
      some (.array (model.fields.map (shownRecord options.settings known))))
    (body : options.settings.style = some .fromJsonToJson →
      Json.member? "from_json_body" scope =
        some (.array ((Exemplar.Dart.readLines model.name (constructor options.settings model)
          (model.fields.map (entry known))).map Json.string))) :
    Template.lines classTemplate scope =
      .ok (Exemplar.Dart.declare options.settings known model).lines := by
  have above : (TemplatePart.choice (.holds "annotation")
      [.line [.shown "annotation"]] []).lines scope =
      .ok (if options.settings.style = some .jsonSerializable then ["@JsonSerializable()"]
        else []) := by
    by_cases generated : options.settings.style = some .jsonSerializable
    · rw [Options.hasStyle_iff.mpr generated] at annotated
      simp [annotated, generated]
    · rw [if_neg (mt Options.hasStyle_iff.mp generated)] at annotated
      simp [annotated, generated, Json.truthy]
  have declared : (TemplatePart.each "field" "fields" fieldTemplate).lines scope =
      .ok (model.fields.flatMap fun field => (property options.settings known field).lines) := by
    apply TemplatePart.lines_each (by rw [Placeholder.value, fields, Lookup.found_some])
    exact fun field _ last => lines_fieldTemplate options.settings known field last scope
  simp only [classTemplate, Template.lines, above, declared, lines_constructor chosen name fields,
    lines_routines style name fields body]
  simp [name, Class.lines, Exemplar.Dart.declare, List.flatMap_map, String.append_assoc]

end Templates

theorem lines_classTemplate (options : Options) (known : NameSet) (model : Model) :
    ∃ scope, classVariables options known model = .ok scope ∧
      Template.lines classTemplate (scope ++ Renderer.classScope options model
        (model.fields.map (shownRecord options.settings known))) =
        .ok (Exemplar.Dart.declare options.settings known model).lines := by
  rw [classVariables, readLines_eq]
  by_cases written : options.settings.style = some .fromJsonToJson
  · rw [if_pos (Options.hasStyle_iff.mpr written)]
    exact ⟨_, rfl, lines_class rfl rfl rfl rfl rfl fun _ => rfl⟩
  · rw [if_neg (mt Options.hasStyle_iff.mp written)]
    exact ⟨_, rfl, lines_class rfl rfl rfl rfl rfl fun style => absurd style written⟩

/-- A class is written as it stands in the source tree. -/
theorem perform_writeClass {model : Model} (marked : model.Marked)
    (knows : memory.knownModels = known) :
    (renderer.writeClass options model).perform memory =
      (.ok ("\n".intercalate (Exemplar.Dart.declare options.settings known model).lines),
        memory.importing (model.fields.flatMap fun _ => [])) := by
  obtain ⟨scope, defined, written⟩ := lines_classTemplate options known model
  exact Renderer.perform_writeClass
    (fun field present memory knows => perform_record (marked field present) knows)
    defined written (trimEnd_join _ (by decide) (by decide)) knows

/-- A generated part needs an import and a directive. -/
theorem text_headerTemplate (options : Options) (set : ModelSet) (imports : NameSet) :
    headerTemplate.text (renderer.headerVariables options set ++
        Renderer.headerScope options imports) =
      .ok (if options.settings.style = some .jsonSerializable then
          "import 'package:json_annotation/json_annotation.dart';\n\n" ++ "part '" ++
            Dart.fileName set.root.name ++ ".g.dart';\n"
        else "") := by
  have generated : options.serializationStyle.isText "json-serializable" = true ↔
      options.settings.style = some .jsonSerializable :=
    @Options.hasStyle_iff options .jsonSerializable
  have lines (file : String) : "import 'package:json_annotation/json_annotation.dart';\n\n" ++
      "part '" ++ file ++ ".g.dart';\n" = String.join
        (["import 'package:json_annotation/json_annotation.dart';", "",
          "part '" ++ (file ++ ".g.dart" ++ "';")].map fun line => line ++ "\n") := by
    apply String.toList_injective
    simp
  by_cases isGenerated : options.settings.style = some .jsonSerializable
  · rw [if_pos isGenerated, lines]
    simp [Template.text, headerTemplate, renderer, headerVariables, Renderer.headerScope,
      generated.mpr isGenerated]
  · rw [if_neg isGenerated]
    simp [Template.text, headerTemplate, renderer, headerVariables, Renderer.headerScope,
      mt generated.mp isGenerated]

theorem trim_header (file : String) :
    String.ofList (Unicode.trim ("import 'package:json_annotation/json_annotation.dart';\n\n" ++
        "part '" ++ file ++ ".g.dart';\n").toList) =
      "import 'package:json_annotation/json_annotation.dart';\n\n" ++ "part '" ++ file ++
        ".g.dart';" := by
  have opened : ("import 'package:json_annotation/json_annotation.dart';\n\n" ++ "part '" ++ file ++
      ".g.dart';\n").toList =
        'i' :: ("mport 'package:json_annotation/json_annotation.dart';\n\npart '" ++ file).toList ++
          ".g.dart';\n".toList := by
    simp
  have trimmed : Unicode.trimEnd ".g.dart';\n".toList = ".g.dart';".toList := by decide
  rw [opened, Unicode.trim_append (by decide) trimmed (by decide)]
  apply String.toList_injective
  simp

/-- The rendering of marked models writes their file and imports nothing. -/
theorem perform_write {set : ModelSet} (marked : ∀ model ∈ set.models, model.Marked) :
    (renderer.write options set).perform memory =
      (.ok (Exemplar.Dart.file options.settings set).text, ⟨set.names, []⟩) := by
  have prepares (memory : Memory) :
      (renderer.prepare options).perform memory = (.ok (), memory.importing []) := rfl
  have collected : NameSet.ofList (set.models.flatMap (fun model =>
      model.fields.flatMap fun _ => ([] : List String)) ++ []) = [] := by
    have silent (model : Model) : model.fields.flatMap (fun _ => ([] : List String)) = [] :=
      List.flatMap_eq_nil_iff.mpr fun _ _ => rfl
    rw [List.append_nil, List.flatMap_eq_nil_iff.mpr fun model _ => silent model]
    rfl
  rw [Renderer.perform_write
    (fun model listed memory knows => perform_writeClass (marked model listed) knows)
    prepares collected (text_headerTemplate options set _)]
  have parts : (Exemplar.Dart.file options.settings set).classes.map
      (fun declared => "\n".intercalate declared.lines) =
        set.models.map fun model => "\n".intercalate
          (Exemplar.Dart.declare options.settings set.names model).lines := by
    rw [Exemplar.Dart.file, List.map_map]
    rfl
  rw [File.text, File.directives, parts, Exemplar.Dart.file]
  by_cases generated : options.settings.style = some .jsonSerializable
  · rw [if_pos generated, trim_header, if_neg (by simp), if_pos generated]
    -- The import and the directive are one part here and two parts in the source tree.
    have opening : "import 'package:json_annotation/json_annotation.dart';\n\n" ++ "part '" ++
        Dart.fileName set.root.name ++ ".g.dart';" =
      "import 'package:json_annotation/json_annotation.dart';" ++ "\n\n" ++
        ("part '" ++ Dart.fileName set.root.name ++ ".g.dart';") := by
      apply String.toList_injective
      simp
    rw [opening, List.singleton_append, intercalate_append_cons]
    rfl
  · rw [if_neg generated, if_neg generated]
    rfl

end Exemplar.Rendering.Dart
