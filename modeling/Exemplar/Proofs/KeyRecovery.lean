import Exemplar.Proofs.ClassLines
import Exemplar.Proofs.WrittenRoutines

/-
Keys in the generated code. The styles that map keys either annotate every field whose name is not
its key, or write the key into the routines of the class. Either way the literal in the code is read
back as the key, and a field without an annotation is named by its key.
-/

namespace Exemplar

/-- A key style annotates the fields that are renamed. The head of a class is the number of lines
above its first field, a declaration has the given text before the name of its field, and an
annotation has a literal between its opening and its closing. -/
structure KeyStyle where
  style : Style
  head : Nat
  before : Settings → NameSet → Field → String
  opening : String
  closing : String
  read? : String → Option String

namespace KeyStyle

def line (style : KeyStyle) (literal : String) : String :=
  style.opening ++ literal ++ style.closing

/-- An annotation tells a key when it starts with the opening of the style. -/
def isKeyLine (style : KeyStyle) (line : String) : Bool :=
  style.opening.toList.isPrefixOf line.toList

section Tells

variable (style : KeyStyle) (settings : Settings) (known : NameSet)

/-- The lines of a field tell its key when they declare the field, and it is either named by its key
or has exactly one annotation that tells a key, whose literal is read as the key of the field. -/
structure Tells (field : Field) (lines : FieldLines) : Prop where
  before : lines.before = style.before settings known field
  name : lines.name = field.name
  unmarked : field.name = field.key → lines.annotations.filter style.isKeyLine = []
  marked : field.name ≠ field.key →
    ∃ literal, lines.annotations.filter style.isKeyLine = [style.line literal] ∧
      style.read? literal = some field.key

/-- The lines of a class tell the keys of a model when the head is followed by the lines of the
fields one by one, and these tell their keys. -/
def TellsKeys (model : Model) (lines : List String) : Prop :=
  ∃ fields below, lines.drop style.head = fields.flatMap FieldLines.lines ++ below ∧
    List.Forall₂ (style.Tells settings known) model.fields fields

end Tells

@[simp] theorem isKeyLine_line (style : KeyStyle) (literal : String) :
    style.isKeyLine (style.line literal) = true := by
  rw [isKeyLine, List.isPrefixOf_iff_prefix, line, String.append_assoc, String.toList_append]
  exact List.prefix_append _ _

/-- A declared field tells its key when the literal of the key is in its annotations exactly if the
field is renamed. -/
theorem tells_of_filter {style : KeyStyle} {settings : Settings} {known : NameSet} {field : Field}
    {lines : FieldLines} {literal : String}
    (before : lines.before = style.before settings known field) (name : lines.name = field.name)
    (read : style.read? literal = some field.key)
    (annotated : lines.annotations.filter style.isKeyLine =
      if field.isRenamed then [style.line literal] else []) :
    style.Tells settings known field lines where
  before := before
  name := name
  unmarked same := by simp [annotated, Field.isRenamed, same]
  marked different := ⟨literal, by simp [annotated, Field.isRenamed, different], read⟩

end KeyStyle

namespace TypeScript

/-- In this style a decorator exposes a renamed field under its key. -/
def keyStyle : KeyStyle where
  style := .classTransformer
  head := 1
  before _ _ _ := "  "
  opening := "  @Expose(\x7b name: "
  closing := " \x7d)"
  read? := Json.readLiteral?

theorem isKeyLine_type (model : String) :
    keyStyle.isKeyLine ("  " ++ (Decorator.type model).text) = false := by
  rw [Decorator.text_type]
  simp [KeyStyle.isKeyLine, keyStyle, List.isPrefixOf]

/-- A decorator that exposes a field is written around the literal of its key. -/
theorem text_expose (key : String) :
    "  " ++ (Decorator.expose key).text = keyStyle.line (Json.quoted key) := by
  rw [Decorator.text_expose, KeyStyle.line, ← String.append_assoc, ← String.append_assoc]
  rfl

/-- In this style the decorators name the models of a field, and then expose it if it is renamed. -/
theorem exists_decorators (type : FieldType) (field : Field) :
    ∃ models : List String, decorators (some .classTransformer) type field =
      models.map Decorator.type ++ if field.isRenamed then [.expose field.key] else [] := by
  rw [decorators, if_pos rfl]
  split
  next model _ => exact ⟨if model = "" then [] else [model], by split <;> rfl⟩
  next => exact ⟨[], rfl⟩

/-- The lines of a property tell the key of its field. -/
theorem tells_property {settings : Settings} (mapped : settings.style = some keyStyle.style)
    (known : NameSet) (field : Field) :
    keyStyle.Tells settings known field (fieldLines (property settings known field)) := by
  have style : settings.style = some .classTransformer := mapped
  have read : keyStyle.read? (Json.quoted field.key) = some field.key := by
    dsimp only [keyStyle]
    exact Json.readLiteral?_quoted field.key
  apply KeyStyle.tells_of_filter rfl rfl read
  obtain ⟨models, decorators⟩ := exists_decorators (field.shape.resolve known) field
  simp only [fieldLines, property, style, decorators]
  cases field.isRenamed <;> simp [isKeyLine_type, text_expose]

/-- A declaration tells the keys of its model. -/
theorem tellsKeys_declaration {settings : Settings} (mapped : settings.style = some keyStyle.style)
    (known : NameSet) (model : Model) :
    keyStyle.TellsKeys settings known model (declaration settings known model).lines := by
  rw [← lines_classLines]
  refine ⟨_, _, rfl, ?_⟩
  simp only [classLines, declaration, List.map_map]
  exact forall₂_map fun field _ => tells_property mapped known field

end TypeScript

namespace Dart

/-- In this style an annotation names the key of a renamed field. -/
def keyStyle : KeyStyle where
  style := .jsonSerializable
  head := 2
  before settings known field := "  " ++ (if settings.constructors then "final " else "") ++
    nullableType (field.shape.resolve known) field.nullable ++ " "
  opening := "  @JsonKey(name: "
  closing := ")"
  read? := Literal.read? '\''

/-- The lines of a property tell the key of its field. -/
theorem tells_property {settings : Settings} (mapped : settings.style = some keyStyle.style)
    (known : NameSet) (field : Field) :
    keyStyle.Tells settings known field (fieldLines (property settings known field)) := by
  have style : settings.style = some .jsonSerializable := mapped
  have read : keyStyle.read? (quoted field.key) = some field.key := by
    dsimp only [keyStyle]
    exact read?_quoted field.key
  have written (key : String) :
      "  @JsonKey(name: " ++ quoted key ++ ")" = keyStyle.line (quoted key) := rfl
  apply KeyStyle.tells_of_filter rfl rfl read
  cases renamed : field.isRenamed <;> simp [fieldLines, property, style, renamed, written]

/-- A class tells the keys of its model. -/
theorem tellsKeys_declare {settings : Settings} (mapped : settings.style = some keyStyle.style)
    (known : NameSet) (model : Model) :
    keyStyle.TellsKeys settings known model (declare settings known model).lines := by
  have annotated : settings.style = some .jsonSerializable := mapped
  rw [← lines_classLines]
  refine ⟨model.fields.map fun field => fieldLines (property settings known field),
    (classLines (declare settings known model)).below, ?_, ?_⟩
  · simp [ClassLines.lines, classLines, declare, keyStyle, annotated, Function.comp_def]
  · exact forall₂_map fun field _ => tells_property mapped known field

end Dart

namespace Kotlin

/-- These styles annotate a renamed field, each with an annotation of its own. -/
def annotationStyle (style : Style) (head : Nat) (marker : String) : KeyStyle where
  style := style
  head := head
  before settings _ _ := if settings.constructors then "    val " else "    var "
  opening := "    @" ++ marker ++ "("
  closing := ")"
  read? := Literal.read? '"'

/-- Only one of the styles annotates every class as well. -/
def KeyMarker.keyStyle : KeyMarker → KeyStyle
  | .serialName => annotationStyle .kotlinxSerialization 2 "SerialName"
  | .jsonProperty => annotationStyle .jackson 1 "JsonProperty"
  | .serializedName => annotationStyle .gson 1 "SerializedName"

variable {kind : KeyMarker} {settings : Settings}

theorem text_marker (kind : KeyMarker) (key : String) :
    "    " ++ (Marker.mk kind key).text = kind.keyStyle.line (quoted key) := by
  cases kind <;>
    simp only [Marker.text, KeyMarker.name, KeyStyle.line, KeyMarker.keyStyle, annotationStyle,
      ← String.append_assoc] <;> rfl

/-- The lines of a property tell the key of its field, whatever ends them. -/
theorem tells_property (mapped : settings.style = some kind.keyStyle.style) (known : NameSet)
    (ending : String) (field : Field) :
    kind.keyStyle.Tells settings known field
      (fieldLines (if settings.constructors then .data else .plain) ending
        (property settings known field)) := by
  have before : (fieldLines (if settings.constructors then .data else .plain) ending
      (property settings known field)).before = kind.keyStyle.before settings known field := by
    cases kind <;> cases constructors : settings.constructors <;>
      simp [fieldLines, KeyMarker.keyStyle, annotationStyle, constructors, Form.keyword]
  have read : kind.keyStyle.read? (quoted field.key) = some field.key := by
    cases kind <;> dsimp only [KeyMarker.keyStyle, annotationStyle] <;>
      exact read?_quoted field.key
  apply KeyStyle.tells_of_filter before rfl read
  have marker : keyMarker? kind.keyStyle.style = some kind := by cases kind <;> rfl
  cases renamed : field.isRenamed <;>
    simp [fieldLines, Property.markerLines, property, marker?, mapped, marker, renamed, text_marker]

/-- A class tells the keys of its model. -/
theorem tellsKeys_declare (mapped : settings.style = some kind.keyStyle.style) (known : NameSet)
    (model : Model) :
    kind.keyStyle.TellsKeys settings known model (declare settings known model).lines := by
  rw [← lines_classLines]
  refine ⟨(classLines (declare settings known model)).fields,
    (classLines (declare settings known model)).below, ?_, ?_⟩
  · cases kind <;> simp [ClassLines.lines, classLines, declare, mapped, KeyMarker.keyStyle,
      annotationStyle]
  · exact forall₂_propertyFields (fun field _ => tells_property mapped known "" field)
      fun field _ => tells_property mapped known "," field

end Kotlin

namespace Dart

/-- The routines of a class write the keys of a model when the class is written from codes of the
fields, and each of these names its field and tells the key. -/
def WritesKeys (settings : Settings) (model : Model) (lines : List String) : Prop :=
  ∃ codes,
    lines = writtenLines model.name (settings.constructors && !model.fields.isEmpty) codes ∧
      List.Forall₂ (fun field code => code.name = field.name ∧ code.TellsKey field.key)
        model.fields codes

theorem writesKeys_declare {settings : Settings} (manual : settings.style = some .fromJsonToJson)
    (known : NameSet) (model : Model) :
    WritesKeys settings model (declare settings known model).lines := by
  refine ⟨model.fields.map (fieldCode settings known), lines_declare known manual model, ?_⟩
  exact forall₂_map fun field _ => ⟨rfl, tellsKey_fieldCode known settings field⟩

end Dart

/-- The keys of all models are recoverable when, in each style that maps keys, every class tells
the keys of its model by annotations, or writes them in its routines. -/
structure ModelSet.KeysRecoverable (set : ModelSet) : Prop where
  typeScript : ∀ settings : Settings, settings.style = some TypeScript.keyStyle.style →
    List.Forall₂ (TypeScript.keyStyle.TellsKeys settings set.names) set.models
      ((TypeScript.file settings set).declarations.map TypeScript.Declaration.lines)
  dart : ∀ settings : Settings, settings.style = some Dart.keyStyle.style →
    List.Forall₂ (Dart.keyStyle.TellsKeys settings set.names) set.models
      ((Dart.file settings set).classes.map Dart.Class.lines)
  routines : ∀ settings : Settings, settings.style = some .fromJsonToJson →
    List.Forall₂ (Dart.WritesKeys settings) set.models
      ((Dart.file settings set).classes.map Dart.Class.lines)
  kotlin : ∀ (kind : Kotlin.KeyMarker) (settings : Settings),
    settings.style = some kind.keyStyle.style →
      List.Forall₂ (kind.keyStyle.TellsKeys settings set.names) set.models
        ((Kotlin.file settings set).classes.map Kotlin.Class.lines)

/-- The keys of all models are recoverable. -/
theorem ModelSet.keysRecoverable (set : ModelSet) : set.KeysRecoverable where
  typeScript settings mapped := by
    rw [TypeScript.file, List.map_map]
    exact forall₂_map fun model _ => TypeScript.tellsKeys_declaration mapped set.names model
  dart settings mapped := by
    rw [Dart.file, List.map_map]
    exact forall₂_map fun model _ => Dart.tellsKeys_declare mapped set.names model
  routines settings manual := by
    rw [Dart.file, List.map_map]
    exact forall₂_map fun model _ => Dart.writesKeys_declare manual set.names model
  kotlin kind settings mapped := by
    rw [Kotlin.file, List.map_map]
    exact forall₂_map fun model _ => Kotlin.tellsKeys_declare mapped set.names model

namespace Extraction

/-- The keys of a document are recoverable from the code that is generated for it. -/
theorem keys_recoverable {document : Json} {members : List (String × Json)}
    (root : document.heldObject? = some members) (nullSafety : Bool) (given : String) :
    ∃ extraction, ofDocument nullSafety given document = .ok extraction ∧
      extraction.models.KeysRecoverable :=
  ⟨_, ofDocument_eq_ok_iff.mpr ⟨members, root, rfl⟩, ModelSet.keysRecoverable _⟩

/-- The keys of this document have characters next to each other that a literal escapes, characters
beyond the basic plane, and no characters at all. -/
def priceTags : List (String × Json) :=
  [("\\$'\"", .integer 1), ("$$", .null), ("unit_price", .integer 3),
   ("été \t𝄞", .object [("", .null), ("\\\\'", .string "a")]), ("plain", .boolean true)]

/-- The keys of the document are recoverable. -/
theorem priceTags_recoverable :
    (Json.object priceTags).heldObject? = some priceTags ∧
      ∃ extraction, ofDocument true "" (.object priceTags) = .ok extraction ∧
        extraction.models.KeysRecoverable :=
  ⟨rfl, keys_recoverable rfl true ""⟩

end Extraction

end Exemplar
