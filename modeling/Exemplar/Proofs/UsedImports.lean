import Exemplar.Proofs.KeyRecovery
import Exemplar.Proofs.RenderedFiles

/-
Used imports. The lines of a class show which annotations it and its fields carry. What a rendering
has imported at its end, field by field and then for the header, are exactly these annotations, each
once and in ascending order, and which fields carry an annotation follows from the models and the
style.
-/

namespace Exemplar

/-- An annotation is named between the sign and the parenthesis. -/
def annotationName (line : String) : String :=
  String.ofList (((line.toList.dropWhile fun character => character != '@').drop 1).takeWhile
    fun character => character != '(')

/-- This function names the annotations that classes and their fields carry. -/
def carriedNames (classes : List ClassLines) : List String :=
  classes.flatMap fun declared =>
    (declared.annotations ++ declared.fields.flatMap FieldLines.annotations).map annotationName

/-- A line that starts with an annotation has the name of the annotation. -/
theorem annotationName_eq {indent name : String} (unsigned : '@' ∉ indent.toList)
    (unclosed : '(' ∉ name.toList) (rest : String) :
    annotationName (indent ++ "@" ++ name ++ "(" ++ rest) = name := by
  have text : (indent ++ "@" ++ name ++ "(" ++ rest).toList =
      indent.toList ++ '@' :: (name.toList ++ '(' :: rest.toList) := by simp
  have before : ∀ character ∈ indent.toList, (character != '@') = true := by
    intro character member
    exact bne_iff_ne.mpr fun same => unsigned (same ▸ member)
  have within : ∀ character ∈ name.toList, (character != '(') = true := by
    intro character member
    exact bne_iff_ne.mpr fun same => unclosed (same ▸ member)
  rw [annotationName, text, List.dropWhile_append_of_pos before]
  simp only [List.dropWhile_cons, bne_self_eq_false, Bool.false_eq_true, if_false, List.drop_one,
    List.tail_cons]
  rw [List.takeWhile_append_of_pos within]
  simp

/-- A file uses its imports when its code is a header with the imports above the classes, the
classes show the models field by field, the imports stand in ascending order, and they are exactly
those of the annotations that the classes carry. -/
structure Language.UsesImports (language : Language) (settings : Settings) (set : ModelSet)
    (code : String) (imports : NameSet) (header : NameSet → List String)
    (importOf : String → String) : Prop where
  written : code = fileText (header imports) (language.classLines settings set)
  shown : List.Forall₂
    (fun model declared => declared.fields.map FieldLines.name = model.fields.map Field.name)
    set.models (language.classLines settings set)
  ascending : imports.Pairwise (· < ·)
  used : ∀ imported, imported ∈ imports ↔
    ∃ name ∈ carriedNames (language.classLines settings set), importOf name = imported

namespace TypeScript

/-- One line imports all decorators, unless there are none. -/
def importHeader (imports : NameSet) : List String :=
  if imports = [] then []
  else ["import \x7b " ++ ", ".intercalate imports ++ " \x7d from \"class-transformer\";"]

/-- A decorator is imported by its name. -/
theorem annotationName_decorator (decorator : Decorator) :
    annotationName ("  " ++ decorator.text) = decorator.importName := by
  cases decorator with
  | type model =>
      have opening : "@Type(() => " = "@" ++ "Type" ++ "(" ++ "() => " := rfl
      have text : "  " ++ (Decorator.type model).text =
          "  " ++ "@" ++ "Type" ++ "(" ++ ("() => " ++ model ++ ")") := by
        simp only [Decorator.text_type, opening, String.append_assoc]
      rw [text]
      exact annotationName_eq (by decide) (by decide) _
  | expose key =>
      have opening : "@Expose(\x7b name: " = "@" ++ "Expose" ++ "(" ++ "\x7b name: " := rfl
      have text : "  " ++ (Decorator.expose key).text =
          "  " ++ "@" ++ "Expose" ++ "(" ++ ("\x7b name: " ++ Json.quoted key ++ " \x7d)") := by
        simp only [Decorator.text_expose, opening, String.append_assoc]
      rw [text]
      exact annotationName_eq (by decide) (by decide) _

theorem carriedNames_classLines (file : File) :
    carriedNames (file.declarations.map classLines) =
      file.decorators.map Decorator.importName := by
  simp [carriedNames, classLines, File.decorators, List.flatMap_map, List.map_flatMap, fieldLines,
    annotationName_decorator, Function.comp_def]

theorem importName_cases (decorator : Decorator) :
    decorator.importName = "Type" ∨ decorator.importName = "Expose" := by
  cases decorator with
  | type => exact .inl rfl
  | expose => exact .inr rfl

/-- A field holds a model directly when it refers to it and it is known. -/
theorem directModel?_resolve_iff {known : NameSet} {shape : Shape} {model : String} :
    (shape.resolve known).directModel? = some model ↔
      model ∈ known ∧ shape = .reference model := by
  cases shape with
  | reference name =>
      by_cases member : name ∈ known
      · simp only [Shape.resolve, member, if_true, FieldType.directModel?, Option.some.injEq,
          Shape.reference.injEq]
        exact ⟨fun same => ⟨same ▸ member, same⟩, And.right⟩
      · simp only [Shape.resolve, member, if_false, FieldType.directModel?, reduceCtorEq,
          Shape.reference.injEq, false_iff, not_and]
        exact fun known same => member (same ▸ known)
  | _ => simp [Shape.resolve, FieldType.directModel?]

/-- A field holds a known model when it refers to it directly or as list items. -/
theorem heldModel?_resolve_iff {known : NameSet} {shape : Shape} {model : String} :
    (shape.resolve known).heldModel? = some model ↔
      model ∈ known ∧ (shape = .reference model ∨ shape = .list (.reference model)) := by
  cases shape with
  | reference name =>
      have same : (Shape.resolve known (.reference name)).heldModel? =
          (Shape.resolve known (.reference name)).directModel? := by
        rw [Shape.resolve]
        split <;> rfl
      rw [same, directModel?_resolve_iff]
      simp
  | list item => simpa [Shape.resolve, FieldType.heldModel?] using directModel?_resolve_iff
  | _ => simp [Shape.resolve, FieldType.heldModel?]

/-- A field has the decorators of the model that it holds and of its key. -/
theorem mem_decorators_iff {style : Option Style} {type : FieldType} {field : Field}
    {decorator : Decorator} :
    decorator ∈ decorators style type field ↔
      style = some .classTransformer ∧
        ((∃ model, type.heldModel? = some model ∧ model ≠ "" ∧ decorator = .type model) ∨
          field.isRenamed = true ∧ decorator = .expose field.key) := by
  unfold decorators
  split
  next mapped =>
    cases type.heldModel? with
    | none => simp [mapped]
    | some model => by_cases unnamed : model = "" <;> simp [mapped, unnamed]
  next unmapped => simp [unmapped]

section Carried

variable {settings : Settings} {set : ModelSet}

theorem mem_decorators_file {decorator : Decorator} :
    decorator ∈ (file settings set).decorators ↔
      ∃ model ∈ set.models, ∃ field ∈ model.fields,
        decorator ∈ decorators settings.style (field.shape.resolve set.names) field := by
  simp [File.decorators, file, declaration, property]

/-- Some field carries the decorator of a model exactly when some field holds a known model. -/
theorem type_carried_iff (named : "" ∉ set.names) :
    "Type" ∈ carriedNames ((file settings set).declarations.map classLines) ↔
      settings.style = some .classTransformer ∧
        ∃ model ∈ set.models, ∃ field ∈ model.fields, ∃ held ∈ set.names,
          field.shape = .reference held ∨ field.shape = .list (.reference held) := by
  rw [carriedNames_classLines, List.mem_map]
  constructor
  · rintro ⟨decorator, member, isType⟩
    obtain ⟨model, listed, field, present, carried⟩ := mem_decorators_file.mp member
    obtain ⟨mapped, ⟨held, holds, _, rfl⟩ | ⟨_, rfl⟩⟩ := mem_decorators_iff.mp carried
    · obtain ⟨known, shape⟩ := heldModel?_resolve_iff.mp holds
      exact ⟨mapped, model, listed, field, present, held, known, shape⟩
    · simp [Decorator.importName] at isType
  · rintro ⟨mapped, model, listed, field, present, held, known, shape⟩
    have holds := heldModel?_resolve_iff.mpr ⟨known, shape⟩
    have heldNamed : held ≠ "" := fun unnamed => named (unnamed ▸ known)
    have carried : .type held ∈ decorators settings.style (field.shape.resolve set.names) field :=
      mem_decorators_iff.mpr ⟨mapped, .inl ⟨held, holds, heldNamed, rfl⟩⟩
    exact ⟨.type held, mem_decorators_file.mpr ⟨model, listed, field, present, carried⟩, rfl⟩

/-- Some field carries the decorator of its key exactly when some field is renamed. -/
theorem expose_carried_iff :
    "Expose" ∈ carriedNames ((file settings set).declarations.map classLines) ↔
      settings.style = some .classTransformer ∧
        ∃ model ∈ set.models, ∃ field ∈ model.fields, field.name ≠ field.key := by
  rw [carriedNames_classLines, List.mem_map]
  constructor
  · rintro ⟨decorator, member, isExpose⟩
    obtain ⟨model, listed, field, present, carried⟩ := mem_decorators_file.mp member
    obtain ⟨mapped, ⟨_, _, _, rfl⟩ | ⟨renamed, rfl⟩⟩ := mem_decorators_iff.mp carried
    · simp [Decorator.importName] at isExpose
    · exact ⟨mapped, model, listed, field, present, bne_iff_ne.mp renamed⟩
  · rintro ⟨mapped, model, listed, field, present, renamed⟩
    have carried :
        .expose field.key ∈ decorators settings.style (field.shape.resolve set.names) field :=
      mem_decorators_iff.mpr ⟨mapped, .inr ⟨bne_iff_ne.mpr renamed, rfl⟩⟩
    exact ⟨.expose field.key, mem_decorators_file.mpr ⟨model, listed, field, present, carried⟩, rfl⟩

end Carried

/-- The imports are used when the file imports by name exactly the decorators that its fields carry,
which are those of held models and of renamed fields in the style that has decorators. -/
structure ImportsUsed (settings : Settings) (set : ModelSet) (code : String) (imports : NameSet) :
    Prop where
  exact : Language.typeScript.UsesImports settings set code imports importHeader id
  only : ∀ name ∈ carriedNames (Language.typeScript.classLines settings set),
    name = "Type" ∨ name = "Expose"
  type : "Type" ∈ carriedNames (Language.typeScript.classLines settings set) ↔
    settings.style = some .classTransformer ∧
      ∃ model ∈ set.models, ∃ field ∈ model.fields, ∃ held ∈ set.names,
        field.shape = .reference held ∨ field.shape = .list (.reference held)
  expose : "Expose" ∈ carriedNames (Language.typeScript.classLines settings set) ↔
    settings.style = some .classTransformer ∧
      ∃ model ∈ set.models, ∃ field ∈ model.fields, field.name ≠ field.key

/-- The file of a model set imports exactly what its classes carry. -/
theorem usesImports (settings : Settings) (set : ModelSet) :
    Language.typeScript.UsesImports settings set (Language.typeScript.emit settings set).code
      (Language.typeScript.emit settings set).imports importHeader id where
  written := by
    have header : Language.typeScript.header settings set =
        importHeader (Language.typeScript.emit settings set).imports := by
      simp only [Language.header, File.importParts, importHeader, List.isEmpty_iff]
      rfl
    rw [Language.code_emit, header]
  shown := by
    simp only [Language.classLines, file, List.map_map]
    refine forall₂_map fun model _ => ?_
    simp [classLines, declaration, property, fieldLines, Function.comp_def]
  ascending := NameSet.pairwise_ofList _
  used := by
    intro imported
    have imports : (Language.typeScript.emit settings set).imports =
        NameSet.ofList ((file settings set).decorators.map Decorator.importName) := rfl
    rw [imports, NameSet.mem_ofList, Language.classLines, carriedNames_classLines]
    simp

/-- A set of named models uses the imports of its file. -/
theorem importsUsed_of_named (settings : Settings) {set : ModelSet} (named : "" ∉ set.names) :
    ImportsUsed settings set (Language.typeScript.emit settings set).code
      (Language.typeScript.emit settings set).imports where
  exact := usesImports settings set
  only := by
    intro name carried
    rw [Language.classLines, carriedNames_classLines] at carried
    obtain ⟨decorator, _, rfl⟩ := List.mem_map.mp carried
    exact importName_cases decorator
  type := type_carried_iff named
  expose := expose_carried_iff

end TypeScript

namespace Kotlin

/-- The package is declared first, and each annotation is imported on a line of its own. Blanks at
the end of the package are dropped when nothing is imported. -/
def importHeader (package : String) (imports : NameSet) : List String :=
  if imports = [] then [String.ofList (Unicode.trimEnd ("package " ++ package).toList)]
  else ["package " ++ package, "\n".intercalate (imports.map fun name => "import " ++ name)]

/-- An annotation is imported from the package that defines it. -/
def importOf : String → String
  | "Serializable" => "kotlinx.serialization.Serializable"
  | "SerialName" => "kotlinx.serialization.SerialName"
  | "JsonProperty" => "com.fasterxml.jackson.annotation.JsonProperty"
  | "SerializedName" => "com.google.gson.annotations.SerializedName"
  | name => name

/-- A marker is imported by the name of its kind. -/
theorem annotationName_marker (marker : Marker) :
    annotationName ("    " ++ marker.text) = marker.kind.name := by
  have text : "    " ++ marker.text =
      "    " ++ "@" ++ marker.kind.name ++ "(" ++ (quoted marker.key ++ ")") := by
    simp only [Marker.text, String.append_assoc]
  rw [text]
  refine annotationName_eq (by decide) ?_ _
  cases marker.kind <;> decide

/-- The lines of properties carry their markers. -/
theorem carried_propertyFields (properties : List Property) (form : Form) :
    ((propertyFields properties form).flatMap FieldLines.annotations).map annotationName =
      (properties.filterMap Property.marker).map fun marker => marker.kind.name := by
  have annotations : (propertyFields properties form).map FieldLines.annotations =
      properties.map Property.markerLines :=
    map_propertyFields (fun _ _ => rfl) properties
  rw [List.flatMap_def, annotations, ← List.flatMap_def]
  clear annotations
  induction properties with
  | nil => rfl
  | cons property rest inductionHypothesis =>
      rw [List.flatMap_cons, List.map_append, inductionHypothesis, Property.markerLines,
        List.filterMap_cons]
      cases property.marker with
      | none => rfl
      | some marker => exact congrArg (· :: _) (annotationName_marker marker)

/-- The kinds of markers have different names, which are not that of the annotation of classes. -/
theorem name_injective {kind other : KeyMarker} (same : kind.name = other.name) : kind = other := by
  cases kind <;> cases other <;> simp_all [KeyMarker.name]

/-- The classes of a file carry the annotation of classes and the markers of properties. -/
theorem mem_carriedNames {file : File} {name : String} :
    name ∈ carriedNames (file.classes.map classLines) ↔
      (name = "Serializable" ∧ file.classes.any Class.serializable = true) ∨
        ∃ marker ∈ file.markers, marker.kind.name = name := by
  have carried : carriedNames (file.classes.map classLines) =
      file.classes.flatMap fun declared =>
        (if declared.serializable then ["Serializable"] else []) ++
          (declared.properties.filterMap Property.marker).map fun marker => marker.kind.name := by
    have serializable : annotationName "@Serializable" = "Serializable" := by decide
    rw [carriedNames, List.flatMap_map]
    congr 1
    funext declared
    rw [List.map_append, classLines, carried_propertyFields]
    split
    · rw [List.map_singleton, serializable]
    · rfl
  have ofClass (declared : Class) :
      name ∈ (if declared.serializable then ["Serializable"] else []) ↔
        name = "Serializable" ∧ declared.serializable = true := by
    split
    next isSerializable => simp [isSerializable]
    next notSerializable => simp [notSerializable]
  simp only [carried, List.mem_flatMap, List.mem_append, ofClass, List.mem_map, File.markers,
    List.any_eq_true]
  constructor
  · rintro ⟨declared, listed, ⟨isName, serializable⟩ | ⟨marker, marked, isName⟩⟩
    · exact .inl ⟨isName, declared, listed, serializable⟩
    · exact .inr ⟨marker, ⟨declared, listed, marked⟩, isName⟩
  · rintro (⟨isName, declared, listed, serializable⟩ | ⟨marker, ⟨declared, listed, marked⟩, isName⟩)
    · exact ⟨declared, listed, .inl ⟨isName, serializable⟩⟩
    · exact ⟨declared, listed, .inr ⟨marker, marked, isName⟩⟩

/-- A file imports the annotation of classes and the markers of properties. -/
theorem mem_imports_iff {file : File} {imported : String} :
    imported ∈ file.imports ↔
      (imported = serializableImport ∧ file.classes.any Class.serializable = true) ∨
        ∃ marker ∈ file.markers, marker.kind.importName = imported := by
  rw [File.imports, NameSet.mem_ofList, List.mem_append, List.mem_map]
  split
  next serializable => simp [serializable]
  next notSerializable => simp [notSerializable]

theorem importOf_name (kind : KeyMarker) : importOf kind.name = kind.importName := by
  cases kind <;> decide

section Carried

variable {settings : Settings} {set : ModelSet}

theorem mem_markers_file {marker : Marker} :
    marker ∈ (file settings set).markers ↔
      ∃ model ∈ set.models, ∃ field ∈ model.fields, marker? settings.style field = some marker := by
  simp [File.markers, file, declare, property]

/-- A field has a marker of the kind of the style exactly when it is renamed. -/
theorem exists_marker?_iff {style : Option Style} {field : Field} {kind : KeyMarker} :
    (∃ marker, marker? style field = some marker ∧ marker.kind = kind) ↔
      style = some kind.keyStyle.style ∧ field.name ≠ field.key := by
  have ofStyle : style.bind keyMarker? = some kind ↔ style = some kind.keyStyle.style := by
    cases style with
    | none => simp
    | some style => cases style <;> cases kind <;> decide
  rw [← ofStyle, marker?, Field.isRenamed]
  by_cases renamed : field.name = field.key
  · simp [renamed]
  · cases style.bind keyMarker? <;> simp [renamed]

/-- Some field has a marker exactly when some field is renamed and the style has this marker. -/
theorem exists_marker_file_iff {kind : KeyMarker} :
    (∃ marker ∈ (file settings set).markers, marker.kind = kind) ↔
      settings.style = some kind.keyStyle.style ∧
        ∃ model ∈ set.models, ∃ field ∈ model.fields, field.name ≠ field.key := by
  constructor
  · rintro ⟨marker, member, isKind⟩
    obtain ⟨model, listed, field, present, marked⟩ := mem_markers_file.mp member
    obtain ⟨mapped, renamed⟩ := exists_marker?_iff.mp ⟨marker, marked, isKind⟩
    exact ⟨mapped, model, listed, field, present, renamed⟩
  · rintro ⟨mapped, model, listed, field, present, renamed⟩
    obtain ⟨marker, marked, isKind⟩ := exists_marker?_iff.mpr ⟨mapped, renamed⟩
    exact ⟨marker, mem_markers_file.mpr ⟨model, listed, field, present, marked⟩, isKind⟩

end Carried

/-- The imports are used when the file imports exactly the annotations that its classes and fields
carry. One style annotates all classes, and the marker of a style stands at the renamed fields. -/
structure ImportsUsed (settings : Settings) (set : ModelSet) (code : String) (imports : NameSet) :
    Prop where
  exact : Language.kotlin.UsesImports settings set code imports (importHeader settings.package)
    importOf
  only : ∀ name ∈ carriedNames (Language.kotlin.classLines settings set),
    name = "Serializable" ∨ ∃ kind : KeyMarker, name = kind.name
  annotated : ∀ declared ∈ Language.kotlin.classLines settings set, declared.annotations =
    if settings.style = some .kotlinxSerialization then ["@Serializable"] else []
  serializable : "kotlinx.serialization.Serializable" ∈ imports ↔
    settings.style = some .kotlinxSerialization
  marked : ∀ kind : KeyMarker,
    kind.name ∈ carriedNames (Language.kotlin.classLines settings set) ↔
      settings.style = some kind.keyStyle.style ∧
        ∃ model ∈ set.models, ∃ field ∈ model.fields, field.name ≠ field.key

/-- The file of a model set imports exactly what its classes carry. -/
theorem usesImports (settings : Settings) (set : ModelSet) :
    Language.kotlin.UsesImports settings set (Language.kotlin.emit settings set).code
      (Language.kotlin.emit settings set).imports (importHeader settings.package) importOf where
  written := by
    have header : Language.kotlin.header settings set =
        importHeader settings.package (Language.kotlin.emit settings set).imports := by
      simp only [Language.header, File.header, importHeader, List.isEmpty_iff]
      rfl
    rw [Language.code_emit, header]
  shown := by
    simp only [Language.classLines, file, List.map_map]
    refine forall₂_map fun model _ => ?_
    have names : (propertyFields (declare settings set.names model).properties
        (declare settings set.names model).form).map FieldLines.name =
          (declare settings set.names model).properties.map Property.name :=
      map_propertyFields (fun _ _ => rfl) _
    simpa [classLines, declare, property, Function.comp_def] using names
  ascending := NameSet.pairwise_ofList _
  used := by
    intro imported
    have imports : (Language.kotlin.emit settings set).imports = (file settings set).imports := rfl
    rw [imports, mem_imports_iff, Language.classLines]
    constructor
    · rintro (⟨rfl, serializable⟩ | ⟨marker, member, rfl⟩)
      · exact ⟨"Serializable", mem_carriedNames.mpr (.inl ⟨rfl, serializable⟩), rfl⟩
      · exact ⟨_, mem_carriedNames.mpr (.inr ⟨marker, member, rfl⟩), importOf_name marker.kind⟩
    · rintro ⟨name, carried, rfl⟩
      rcases mem_carriedNames.mp carried with ⟨rfl, serializable⟩ | ⟨marker, member, rfl⟩
      · exact .inl ⟨rfl, serializable⟩
      · exact .inr ⟨marker, member, (importOf_name marker.kind).symm⟩

/-- Some field carries the marker of a kind exactly when the style has this marker and some field is
renamed. -/
theorem marker_carried_iff {settings : Settings} {set : ModelSet} (kind : KeyMarker) :
    kind.name ∈ carriedNames ((file settings set).classes.map classLines) ↔
      settings.style = some kind.keyStyle.style ∧
        ∃ model ∈ set.models, ∃ field ∈ model.fields, field.name ≠ field.key := by
  rw [mem_carriedNames, ← exists_marker_file_iff]
  constructor
  · rintro (⟨ofClass, _⟩ | ⟨marker, member, same⟩)
    · cases kind <;> simp [KeyMarker.name] at ofClass
    · exact ⟨marker, member, name_injective same⟩
  · rintro ⟨marker, member, rfl⟩
    exact .inr ⟨marker, member, rfl⟩

/-- A model set uses the imports of its file. -/
theorem importsUsed (settings : Settings) (set : ModelSet) :
    ImportsUsed settings set (Language.kotlin.emit settings set).code
      (Language.kotlin.emit settings set).imports where
  exact := usesImports settings set
  only := by
    intro name carried
    rcases mem_carriedNames.mp carried with ⟨isName, _⟩ | ⟨marker, _, isName⟩
    · exact .inl isName
    · exact .inr ⟨marker.kind, isName.symm⟩
  annotated := by
    intro declared listed
    obtain ⟨source, member, rfl⟩ := List.mem_map.mp listed
    obtain ⟨model, _, rfl⟩ := List.mem_map.mp member
    simp [classLines, declare]
  serializable := by
    have imports : (Language.kotlin.emit settings set).imports =
        (file settings set).imports := rfl
    rw [imports, mem_imports_iff, any_serializable_file]
    constructor
    · rintro (⟨_, style⟩ | ⟨marker, _, ofMarker⟩)
      · exact style
      · cases kind : marker.kind <;> rw [kind] at ofMarker <;> exact absurd ofMarker (by decide)
    · exact fun style => .inl ⟨rfl, style⟩
  marked := marker_carried_iff

end Kotlin

namespace Extraction

/-- No model of an extraction is without a name. -/
theorem empty_notMem_names {nullSafety : Bool} {given : String} {members : List (String × Json)} :
    "" ∉ (ofMembers nullSafety (rootName given) members).models.names := by
  have named : ∀ model ∈ (ofMembers nullSafety (rootName given) members).models.models,
      model.name ≠ "" :=
    invariant_ofMembers (fun _ _ named _ => named) (rootName_ne_empty given)
      fun sample _ => Shape.referenceName_ne_empty sample.members
  rw [ModelSet.names, NameSet.mem_ofList, List.mem_map]
  rintro ⟨model, member, unnamed⟩
  exact named model member unnamed

/-- In the two languages that have imports, a rendering of the models of a document ends with
exactly the imports that its code uses, whatever was imported before. Every style of Kotlin can be
looked up in a table. -/
theorem imports_used {document : Json} {members : List (String × Json)}
    (root : document.heldObject? = some members) (nullSafety : Bool) (given : String) :
    ∃ extraction, ofDocument nullSafety given document = .ok extraction ∧
      ∀ options memory,
        (∃ code imports,
          (Language.typeScript.renderer.write options extraction.models).perform memory =
            (.ok code, ⟨extraction.models.names, imports⟩) ∧
          TypeScript.ImportsUsed options.settings extraction.models code imports) ∧
        (options.serializationStyle.isTableKey = true → ∃ code imports,
          (Language.kotlin.renderer.write options extraction.models).perform memory =
            (.ok code, ⟨extraction.models.names, imports⟩) ∧
          Kotlin.ImportsUsed options.settings extraction.models code imports) := by
  refine ⟨_, ofDocument_eq_ok_iff.mpr ⟨members, root, rfl⟩, ?_⟩
  intro options memory
  constructor
  · exact ⟨_, _, Language.typeScript.perform_write nofun marked_ofMembers,
      TypeScript.importsUsed_of_named options.settings empty_notMem_names⟩
  · intro isKey
    exact ⟨_, _, Language.kotlin.perform_write (fun _ _ _ _ _ _ => isKey) marked_ofMembers,
      Kotlin.importsUsed options.settings _⟩

/-- In this document a field of the root holds a known model and a field of the nested model is
renamed, while the model of the object below it is not known. -/
def bookShelf : List (String × Json) :=
  [("books", .array [.object [("isbn_no", .string "x"), ("author", .object [("first", .null)])]]),
   ("@Expose(", .integer 2)]

/-- These options give the style that annotates the classes and the keys. -/
def serializableOptions : Options where
  serializationStyle := .string "kotlinx-serialization"

/-- The files of the document import what they use. -/
theorem bookShelf_imports_used :
    (Json.object bookShelf).heldObject? = some bookShelf ∧
      serializableOptions.serializationStyle.isTableKey = true ∧
      ∃ extraction, ofDocument false "Shelf" (.object bookShelf) = .ok extraction ∧
        ∀ memory,
          (∃ code imports,
            (Language.typeScript.renderer.write serializableOptions extraction.models).perform
                memory = (.ok code, ⟨extraction.models.names, imports⟩) ∧
            TypeScript.ImportsUsed serializableOptions.settings extraction.models code imports) ∧
          ∃ code imports,
            (Language.kotlin.renderer.write serializableOptions extraction.models).perform memory =
              (.ok code, ⟨extraction.models.names, imports⟩) ∧
            Kotlin.ImportsUsed serializableOptions.settings extraction.models code imports := by
  obtain ⟨extraction, extracted, used⟩ := @imports_used (.object bookShelf) bookShelf rfl false
    "Shelf"
  refine ⟨rfl, rfl, extraction, extracted, ?_⟩
  intro memory
  exact (used serializableOptions memory).imp id fun written => written rfl

end Extraction

end Exemplar
