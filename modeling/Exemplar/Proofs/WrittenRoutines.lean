import Exemplar.Proofs.CapitalNames
import Exemplar.Proofs.DartExpressions
import Exemplar.Proofs.StringLiterals
import Mathlib.Data.List.Forall2

/-
Routines that are written out. A class with such routines is determined by what it says about each
of its fields, because the constructor, the factory and the routine that writes the class all list
the same fields in the same order. What it says about a field agrees with the field throughout.
-/

namespace Exemplar

/-- A list is related to its image when every member is related to its own image. -/
theorem forall₂_map {α β : Type} {related : α → β → Prop} {image : α → β} {list : List α}
    (each : ∀ member ∈ list, related member (image member)) :
    List.Forall₂ related list (list.map image) := by
  rw [List.forall₂_map_right_iff, List.forall₂_same]
  exact each

namespace Shape

variable {known : NameSet} {shape : Shape}

theorem resolve_eq_dynamic_iff : shape.resolve known = .dynamic ↔ shape = .dynamic := by
  cases shape with
  | reference model => by_cases member : model ∈ known <;> simp [resolve, member]
  | _ => simp [resolve]

theorem resolve_eq_primitive_iff {type : Primitive} :
    shape.resolve known = .primitive type ↔ shape = .primitive type := by
  cases shape with
  | reference model => by_cases member : model ∈ known <;> simp [resolve, member]
  | _ => simp [resolve]

/-- Only a reference to an unknown model has the type of any object. -/
theorem resolve_eq_object_iff :
    shape.resolve known = .object ↔ ∃ model, model ∉ known ∧ shape = .reference model := by
  cases shape with
  | reference model => by_cases member : model ∈ known <;> simp [resolve, member]
  | _ => simp [resolve]

/-- A model that a field holds is known. -/
theorem mem_of_resolve_eq_model {model : String} (same : shape.resolve known = .model model) :
    model ∈ known := by
  cases shape with
  | reference name =>
      rw [resolve] at same
      split at same
      next member => exact FieldType.model.inj same ▸ member
      · cases same
  | _ => cases same

/-- A model that a field holds a list of is known. -/
theorem mem_of_resolve_eq_list {model : String}
    (same : shape.resolve known = .list (.model model)) : model ∈ known := by
  cases shape with
  | list item => exact mem_of_resolve_eq_model (FieldType.list.inj same)
  | reference name =>
      rw [resolve] at same
      split at same <;> cases same
  | _ => cases same

end Shape

namespace Dart

/-- This is what a class with written routines says about one field. The name of a type may be
marked with a question mark, and the read stands in pieces around the value that is read. -/
structure FieldCode where
  final : Bool
  type : String
  marked : Bool
  name : String
  initial : String
  required : Bool
  literal : String
  read : List String
  write : String

namespace FieldCode

def declarationLine (code : FieldCode) : String :=
  "  " ++ (if code.final then "final " else "") ++ code.type ++
    (if code.marked then "?" else "") ++ " " ++ code.name ++ code.initial ++ ";"

def parameterLine (code : FieldCode) : String :=
  "    " ++ (if code.required then "required " else "") ++ "this." ++ code.name ++ ","

def readText (code : FieldCode) : String :=
  ("json[" ++ code.literal ++ "]").intercalate code.read

def argumentLine (code : FieldCode) : String :=
  "      " ++ code.name ++ ": " ++ code.readText ++ ","

def cascadeLine (code : FieldCode) : String :=
  "      .." ++ code.name ++ " = " ++ code.readText

def entryLine (code : FieldCode) : String :=
  "      " ++ code.literal ++ ": " ++ code.write ++ ","

end FieldCode

/-- The constructor of a class with written routines has one named parameter for each field, or
none at all. -/
def constructorLines (name : String) (named : Bool) (codes : List FieldCode) : List String :=
  if named then
    ["  " ++ name ++ "(\x7b"] ++ codes.map FieldCode.parameterLine ++ ["  \x7d);"]
  else
    ["  " ++ name ++ "();"]

/-- The factory passes all fields to the named parameters, or assigns them to a fresh object. -/
def factoryLines (name : String) (named : Bool) (codes : List FieldCode) : List String :=
  if named then
    ["    return " ++ name ++ "("] ++ codes.map FieldCode.argumentLine ++ ["    );"]
  else
    endStatement (("    return " ++ name ++ "()") :: codes.map FieldCode.cascadeLine)

/-- These are the lines of a class with written routines. -/
def writtenLines (name : String) (named : Bool) (codes : List FieldCode) : List String :=
  ["class " ++ name ++ " \x7b"] ++ codes.map FieldCode.declarationLine ++
    [""] ++ constructorLines name named codes ++
    ["", "  factory " ++ name ++ ".fromJson(Map<String, dynamic> json) \x7b"] ++
    factoryLines name named codes ++
    ["  \x7d", "", "  Map<String, dynamic> toJson() \x7b", "    return \x7b"] ++
    codes.map FieldCode.entryLine ++ ["    \x7d;", "  \x7d", "\x7d"]

/-- This function describes what a class says about a field. -/
def fieldCode (settings : Settings) (known : NameSet) (field : Field) : FieldCode :=
  let type := field.shape.resolve known
  { final := settings.constructors
    type := dialect.type type
    marked := field.nullable && dialect.type type != dialect.dynamic
    name := field.name
    initial :=
      match (property settings known field).initializer with
      | some value => " = " ++ dialect.initializer value
      | none => ""
    required := (parameter field).required
    literal := quoted field.key
    read := (read type).pieces field.nullable
    write := (write type).text field.nullable field.name }

/-- Indenting the lines of a statement leaves its last line the last. -/
theorem map_endStatement (indent : String) (lines : List String) :
    (endStatement lines).map (fun line => indent ++ line) =
      endStatement (lines.map fun line => indent ++ line) := by
  induction lines using endStatement.induct with
  | case1 => rfl
  | case2 last => simp [endStatement, String.append_assoc]
  | case3 first rest notLast inductionHypothesis =>
    cases rest with
    | nil => exact absurd rfl notLast
    | cons second rest => simpa [endStatement] using inductionHypothesis

variable {settings : Settings} (known : NameSet)

/-- The declared type is marked with a question mark when null is admitted and not by the type. -/
theorem nullableType_eq (type : FieldType) (nullable : Bool) :
    nullableType type nullable = dialect.type type ++
      if nullable && dialect.type type != dialect.dynamic then "?" else "" := by
  rw [nullableType]
  by_cases dynamic : dialect.type type = dialect.dynamic <;> cases nullable <;> simp [dynamic]

/-- In the manual style a field is declared on one line. -/
theorem lines_property (manual : settings.style = some .fromJsonToJson) (field : Field) :
    (property settings known field).lines = [(fieldCode settings known field).declarationLine] := by
  have noKey : (property settings known field).key = none := by simp [property, manual]
  rw [Property.lines, noKey, nullableType_eq, FieldCode.declarationLine]
  simp only [fieldCode, property, String.append_assoc, List.nil_append]
  rfl

theorem readText_entry (settings : Settings) (field : Field) :
    (entry known field).readText = (fieldCode settings known field).readText := by
  rw [Entry.readText, Read.text_eq]
  rfl

/-- An indented argument of the constructor is the one that the code of its field gives. -/
theorem indent_argument (settings : Settings) (field : Field) :
    "    " ++ ("  " ++ (entry known field).name ++ ": " ++ (entry known field).readText ++ ",") =
      (fieldCode settings known field).argumentLine := by
  simp only [readText_entry known settings, FieldCode.argumentLine, ← String.append_assoc]
  rfl

/-- An indented assignment to a fresh object is the one that the code of its field gives. -/
theorem indent_assignment (settings : Settings) (field : Field) :
    "    " ++ ("  .." ++ (entry known field).name ++ " = " ++ (entry known field).readText) =
      (fieldCode settings known field).cascadeLine := by
  simp only [readText_entry known settings, FieldCode.cascadeLine, ← String.append_assoc]
  rfl

/-- In the manual style the constructor has a named parameter for each field, if there are any. -/
theorem constructor_lines (manual : settings.style = some .fromJsonToJson) (model : Model) :
    (constructor settings model).lines model.name =
      [""] ++ constructorLines model.name (settings.constructors && !model.fields.isEmpty)
        (model.fields.map (fieldCode settings known)) := by
  by_cases named : settings.constructors = true ∧ model.fields ≠ []
  · have isNamed : (settings.constructors && !model.fields.isEmpty) = true := by simpa using named
    have parameters : (model.fields.map parameter).map Parameter.line =
        (model.fields.map (fieldCode settings known)).map FieldCode.parameterLine := by
      rw [List.map_map, List.map_map]
      rfl
    rw [constructor, if_pos named, Constructor.lines, parameters, constructorLines, if_pos isNamed]
    rfl
  · have notNamed : ¬ (settings.constructors && !model.fields.isEmpty) = true := by
      simpa using named
    have empty : constructor settings model = .empty := by simp [constructor, named, manual]
    rw [empty, constructorLines, if_neg notNamed]
    rfl

/-- In the manual style the factory calls the constructor that the class declares. -/
theorem map_readLines (manual : settings.style = some .fromJsonToJson) (model : Model) :
    (readLines model.name (constructor settings model) (model.fields.map (entry known))).map
        (fun line => "    " ++ line) =
      factoryLines model.name (settings.constructors && !model.fields.isEmpty)
        (model.fields.map (fieldCode settings known)) := by
  by_cases named : settings.constructors = true ∧ model.fields ≠ []
  · have isNamed : (settings.constructors && !model.fields.isEmpty) = true := by simpa using named
    rw [constructor, if_pos named, factoryLines, if_pos isNamed]
    simp only [readLines, List.map_append, List.map_cons, List.map_nil, List.map_map,
      Function.comp_def, indent_argument known settings, ← String.append_assoc]
    rfl
  · have notNamed : ¬ (settings.constructors && !model.fields.isEmpty) = true := by
      simpa using named
    have empty : constructor settings model = .empty := by simp [constructor, named, manual]
    rw [empty, factoryLines, if_neg notNamed]
    simp only [readLines, map_endStatement, List.map_cons, List.map_map, Function.comp_def,
      indent_assignment known settings, ← String.append_assoc]
    rfl

/-- A class in the manual style has the lines that the codes of its fields give. -/
theorem lines_declare (manual : settings.style = some .fromJsonToJson) (model : Model) :
    (declare settings known model).lines =
      writtenLines model.name (settings.constructors && !model.fields.isEmpty)
        (model.fields.map (fieldCode settings known)) := by
  have routines : routines settings known model = .written (model.fields.map (entry known)) := by
    simp [routines, manual]
  have declarations : (model.fields.map (property settings known)).flatMap Property.lines =
      (model.fields.map (fieldCode settings known)).map FieldCode.declarationLine := by
    simp only [List.flatMap_map, List.map_map, lines_property known manual, Function.comp_def]
    exact List.flatMap_pure_eq_map _ _
  have entries : (model.fields.map (entry known)).map (fun entry =>
      "      " ++ quoted entry.key ++ ": " ++ entry.writeText ++ ",") =
        (model.fields.map (fieldCode settings known)).map FieldCode.entryLine := by
    rw [List.map_map, List.map_map]
    rfl
  have notAnnotated : ¬ settings.style = some .jsonSerializable := by simp [manual]
  have header : fromJsonHeader model.name ++ " \x7b" =
      "  factory " ++ model.name ++ ".fromJson(Map<String, dynamic> json) \x7b" := by
    simp only [fromJsonHeader, objectType, String.append_assoc]
    rfl
  rw [Class.lines]
  simp only [declare, routines, Routines.lines, entries, declarations,
    constructor_lines known manual, map_readLines known manual, header, writtenLines, notAnnotated,
    decide_false, List.append_assoc, List.cons_append, List.nil_append]
  rfl

example : (declare ⟨true, some .fromJsonToJson, ""⟩ ["Seat"] ⟨"Ticket",
    [⟨"rowNo", "row_no", .primitive .integer, false, false, false⟩,
      ⟨"seat", "$eat", .reference "Seat", true, false, true⟩]⟩).lines =
    ["class Ticket \x7b", "  final int rowNo;", "  final Seat? seat;", "", "  Ticket(\x7b",
     "    required this.rowNo,", "    this.seat,", "  \x7d);", "",
     "  factory Ticket.fromJson(Map<String, dynamic> json) \x7b", "    return Ticket(",
     "      rowNo: (json['row_no'] as num).toInt(),",
     "      seat: json['\\$eat'] == null ? null : " ++
       "Seat.fromJson(json['\\$eat'] as Map<String, dynamic>),",
     "    );", "  \x7d", "", "  Map<String, dynamic> toJson() \x7b", "    return \x7b",
     "      'row_no': rowNo,", "      '\\$eat': seat?.toJson(),", "    \x7d;", "  \x7d",
     "\x7d"] := by
  decide +kernel

/-- Only the dynamic type is spelled with a small letter in front, unless a model is. -/
theorem type_eq_dynamic_iff {type : FieldType}
    (capital : ∀ model, type = .model model → ¬ Naming.StartsSmall model) :
    dialect.type type = dialect.dynamic ↔ type = .dynamic := by
  refine ⟨fun same => ?_, fun same => same ▸ rfl⟩
  cases type with
  | dynamic => rfl
  | primitive type => cases type <;> exact absurd same (by decide)
  | object => exact absurd same (by decide)
  | model name =>
      have small : Naming.StartsSmall dialect.dynamic := by decide
      have spelled : name = dialect.dynamic := same
      exact absurd (spelled ▸ small) (capital name rfl)
  | list item =>
      have first := congrArg (fun text => text.toList.head?) same
      simp [Dialect.type, dialect] at first

/-- The code of a field tells the key of the field when its literal is read as the key and stands in
every access to the decoded object, of which there is at least one. -/
structure FieldCode.TellsKey (key : String) (code : FieldCode) : Prop where
  literal : Literal.read? '\'' code.literal = some key
  accessed : 2 ≤ code.read.length
  only : ∀ piece ∈ code.read, AccessesNothing code.type piece

theorem tellsKey_fieldCode (settings : Settings) (field : Field) :
    (fieldCode settings known field).TellsKey field.key where
  literal := read?_quoted field.key
  accessed := Read.two_le_length_pieces _ _
  only _ member := accessesNothing_pieces member

/-- The code of a field agrees with the field when it declares, reads and writes that field under
its key, reads a model exactly when it writes one, which is the model that it declares, and admits
null everywhere or nowhere, as the field does. -/
structure FieldCode.Agrees (known : NameSet) (field : Field) (code : FieldCode) : Prop where
  name : code.name = field.name
  type : code.type = dialect.type (field.shape.resolve known)
  key : code.TellsKey field.key
  written : code.write = code.name ∨ WritesModel code.name code.write ∨
    WritesItems code.name code.write
  model : ∀ model, ReadsModel model code.read ↔
    WritesModel code.name code.write ∧ code.type = model
  items : ∀ model, ReadsItems model code.read ↔
    WritesItems code.name code.write ∧ code.type = "List<" ++ model ++ ">"
  declared : ∀ model, ReadsModel model code.read ∨ ReadsItems model code.read → model ∈ known
  tolerant : field.shape ≠ .dynamic → (NullTolerant code.read ↔ field.nullable = true)
  marked : field.shape ≠ .dynamic → (code.marked = true ↔ field.nullable = true)
  guarded : WritesModel code.name code.write ∨ WritesItems code.name code.write →
    ((∃ call, code.write = code.name ++ "?." ++ call) ↔ field.nullable = true)
  required : code.required = true ↔ field.nullable = false ∧ field.shape ≠ .dynamic

/-- The code of a field agrees with the field, when no known model starts with a small letter. -/
theorem agrees_fieldCode (settings : Settings)
    (capital : ∀ model ∈ known, ¬ Naming.StartsSmall model) (field : Field) :
    (fieldCode settings known field).Agrees known field where
  name := rfl
  type := rfl
  key := tellsKey_fieldCode known settings field
  written := by
    rcases heldModel?_cases (field.shape.resolve known) with plain | model | items
    · left
      simp only [fieldCode, write_plain plain]
      rfl
    · exact .inr (.inl (writesModel_iff.mpr model))
    · exact .inr (.inr (writesItems_iff.mpr items))
  model model := by
    simp only [fieldCode, readsModel_iff, writesModel_iff]
    constructor
    · intro same
      exact ⟨⟨model, same⟩, by rw [same]; rfl⟩
    · rintro ⟨⟨other, same⟩, spelled⟩
      rw [same] at spelled
      exact same.trans (congrArg FieldType.model spelled)
  items model := by
    simp only [fieldCode, readsItems_iff, writesItems_iff]
    constructor
    · intro same
      exact ⟨⟨model, same⟩, by rw [same]; rfl⟩
    · rintro ⟨⟨other, same⟩, spelled⟩
      rw [same] at spelled
      have sameModel : other = model := by simpa [Dialect.type, dialect] using spelled
      exact same.trans (by rw [sameModel])
  declared model reads := by
    simp only [fieldCode, readsModel_iff, readsItems_iff] at reads
    rcases reads with same | same
    · exact Shape.mem_of_resolve_eq_model same
    · exact Shape.mem_of_resolve_eq_list same
  tolerant typed :=
    nullTolerant_pieces_iff (read_ne_asIs (mt Shape.resolve_eq_dynamic_iff.mp typed))
      (fun _ => cast_of_read) _
  marked typed := by
    -- A model that is spelled like the dynamic type would go without a mark.
    have spelled : dialect.type (field.shape.resolve known) ≠ dialect.dynamic := by
      refine mt (type_eq_dynamic_iff ?_).mp (mt Shape.resolve_eq_dynamic_iff.mp typed)
      intro model same
      exact capital model (Shape.mem_of_resolve_eq_model same)
    simp [fieldCode, spelled]
  guarded writes := by
    apply guarded_write_iff
    simp only [fieldCode, writesModel_iff, writesItems_iff] at writes
    rcases writes with ⟨model, same⟩ | ⟨model, same⟩ <;>
      simp [same, FieldType.heldModel?, FieldType.directModel?]
  required := by simp [fieldCode, parameter]

/-- The routines of a class agree with its model when the class is written from codes that agree
with the fields one by one. Its fields are final exactly when constructors are asked for, so they
can be assigned when the constructor has no parameters. -/
def RoutinesAgree (settings : Settings) (known : NameSet) (model : Model) (lines : List String) :
    Prop :=
  ∃ codes,
    lines = writtenLines model.name (settings.constructors && !model.fields.isEmpty) codes ∧
      List.Forall₂ (FieldCode.Agrees known) model.fields codes ∧
      ∀ code ∈ codes, code.final = settings.constructors

/-- The routines of a declared class agree with its model. -/
theorem routinesAgree_declare (manual : settings.style = some .fromJsonToJson)
    (capital : ∀ model ∈ known, ¬ Naming.StartsSmall model) (model : Model) :
    RoutinesAgree settings known model (declare settings known model).lines := by
  refine ⟨model.fields.map (fieldCode settings known), lines_declare known manual model, ?_, ?_⟩
  · exact forall₂_map fun field _ => agrees_fieldCode known settings capital field
  · intro code member
    obtain ⟨field, _, rfl⟩ := List.mem_map.mp member
    rfl

end Dart

namespace Extraction

/-- In the manual style all routines agree with the models of a document. -/
theorem routines_agree {document : Json} {members : List (String × Json)}
    (root : document.heldObject? = some members) (nullSafety : Bool) (given : String)
    (settings : Settings) (manual : settings.style = some .fromJsonToJson) :
    ∃ extraction, ofDocument nullSafety given document = .ok extraction ∧
      List.Forall₂ (Dart.RoutinesAgree settings extraction.models.names)
        extraction.models.models
        ((Dart.file settings extraction.models).classes.map Dart.Class.lines) := by
  refine ⟨_, ofDocument_eq_ok_iff.mpr ⟨members, root, rfl⟩, ?_⟩
  rw [Dart.file, List.map_map]
  apply forall₂_map
  intro model _
  exact Dart.routinesAgree_declare _ manual
    (fun _ member => not_startsSmall_of_mem_names member) model

/-- In this document a price is missing from the second ticket, no ticket shows a seat, a key holds
characters that a literal escapes, and the last model has no fields. -/
def ticketOffice : List (String × Json) :=
  [("night's \\ $total", .integer 2),
   ("tickets", .array [.object [("row_no", .integer 4), ("price", .integer 30), ("seat", .null)]]),
   ("spare", .object [("row_no", .integer 9), ("seat", .null)]),
   ("codes", .array [.array [.string "A4"]]), ("note", .null), ("agent", .object [])]

/-- These settings ask for routines, with or without named constructors. -/
def manualSettings (constructors : Bool) : Settings where
  constructors := constructors
  style := some .fromJsonToJson
  package := ""

/-- The routines for the document agree with its models, with and without named constructors. -/
theorem ticketOffice_agree :
    (Json.object ticketOffice).heldObject? = some ticketOffice ∧
      (manualSettings true).style = some .fromJsonToJson ∧
      (manualSettings false).style = some .fromJsonToJson ∧
      (∃ extraction, ofDocument false "" (.object ticketOffice) = .ok extraction ∧
        List.Forall₂ (Dart.RoutinesAgree (manualSettings true) extraction.models.names)
          extraction.models.models
          ((Dart.file (manualSettings true) extraction.models).classes.map Dart.Class.lines)) ∧
      ∃ extraction, ofDocument false "" (.object ticketOffice) = .ok extraction ∧
        List.Forall₂ (Dart.RoutinesAgree (manualSettings false) extraction.models.names)
          extraction.models.models
          ((Dart.file (manualSettings false) extraction.models).classes.map Dart.Class.lines) :=
  ⟨rfl, rfl, rfl, routines_agree rfl false "" (manualSettings true) rfl,
    routines_agree rfl false "" (manualSettings false) rfl⟩

end Extraction

end Exemplar
