import Exemplar.Proofs.FieldDeclarations
import Exemplar.Proofs.ListReads
import Exemplar.Proofs.UsedImports

namespace Exemplar

namespace Dart

/-- This function writes the expression that writes what stands below levels of lists in an item.
The items of every level are called `e`. -/
def writtenBelow : Nat → String
  | 0 => "e.toJson()"
  | levels + 1 => "e." ++ mapItems (writtenBelow levels)

/-- An expression reads what stands below levels of lists through the factory of a model. -/
def ReadsBelow (model : String) : Nat → List String → Prop
  | 0, pieces => ReadsModel model pieces
  | levels + 1, pieces => ConvertsItems (readModel model "e") levels pieces

/-- An expression writes what stands below levels of lists in a field through its routine. -/
def WritesBelow (name : String) : Nat → String → Prop
  | 0, text => WritesModel name text
  | levels + 1, text => ∃ access ∈ [".", "?."],
      text = name ++ access ++ mapItems (writtenBelow levels)

end Dart

/-- A known model stands below levels of lists in the type of a field. -/
def Field.HoldsBelow (known : NameSet) (levels : Nat) (model : String) (field : Field) : Prop :=
  field.shape.resolve known = .listed levels (.model model)

/-- The annotations of a field in TypeScript, and its code in Dart, find the model that stands below
levels of lists in its type. -/
structure Field.FindsModel (settings : Settings) (known : NameSet) (levels : Nat) (model : String)
    (field : Field) : Prop where
  held : (field.shape.resolve known).heldModel? = some model
  annotated : settings.style = some .classTransformer →
    "  @Type(() => " ++ model ++ ")" ∈
      (TypeScript.fieldLines (TypeScript.property settings known field)).annotations
  read : Dart.ReadsBelow model levels (Dart.fieldCode settings known field).read
  written : Dart.WritesBelow field.name levels (Dart.fieldCode settings known field).write

/-- A field overlooks all models when it has no annotation for one, and its list is copied when it
is read and left as it is when it is written. -/
structure Field.OverlooksModels (settings : Settings) (known : NameSet) (field : Field) : Prop where
  held : (field.shape.resolve known).heldModel? = none
  annotated : ∀ line ∈
      (TypeScript.fieldLines (TypeScript.property settings known field)).annotations,
    annotationName line ≠ "Type"
  read : ∃ item, field.shape.resolve known = .list item ∧
    Dart.Copies (Dart.dialect.type item) (Dart.fieldCode settings known field).read
  written : (Dart.fieldCode settings known field).write = field.name

/-- A model that stands below levels of lists is looked up when every language writes its name at
that level of the type, and it is found or overlooked, as the levels are at most one or more. -/
structure Field.LooksUpModel (settings : Settings) (known : NameSet) (levels : Nat) (model : String)
    (field : Field) : Prop where
  printed : ∀ language : Language, ∀ text,
    language.TypeBelow levels (language.dialect.type (field.shape.resolve known)) text ↔
      text = model
  found : field.FindsModel settings known levels model ↔ levels ≤ 1
  overlooked : field.OverlooksModels settings known ↔ 1 < levels

/-- A model that stands below lists is held by the field only below one of them. -/
theorem FieldType.heldModel?_listed (levels : Nat) (model : String) :
    (FieldType.listed levels (.model model)).heldModel? = if levels ≤ 1 then some model else none :=
  match levels with
  | 0 => rfl
  | 1 => rfl
  | _ + 2 => rfl

/-- A model that stands below lists is known. -/
theorem Shape.mem_of_resolve_eq_listed {known : NameSet} {shape : Shape} {levels : Nat}
    {model : String} (below : shape.resolve known = .listed levels (.model model)) :
    model ∈ known := by
  induction levels generalizing shape with
  | zero => exact mem_of_resolve_eq_model below
  | succ levels inductionHypothesis =>
      cases shape with
      | list item => exact inductionHypothesis (FieldType.list.inj below)
      | reference name =>
          rw [resolve] at below
          split at below <;> cases below
      | _ => cases below

section Lookup

variable {settings : Settings} {known : NameSet} {levels : Nat} {model : String} {field : Field}

/-- Under the style that annotates models, a field has the annotation of the model that it holds. -/
theorem mem_annotations_of_heldModel? (mapped : settings.style = some .classTransformer)
    (held : (field.shape.resolve known).heldModel? = some model) (named : model ≠ "") :
    "  @Type(() => " ++ model ++ ")" ∈
      (TypeScript.fieldLines (TypeScript.property settings known field)).annotations := by
  refine List.mem_map.mpr ⟨.type model, ?_, ?_⟩
  · exact TypeScript.mem_decorators_iff.mpr ⟨mapped, .inl ⟨model, held, named, rfl⟩⟩
  · rw [TypeScript.Decorator.text_type, ← String.append_assoc, ← String.append_assoc]
    rfl

/-- A field that holds no model has no annotation for one. -/
theorem annotationName_ne_type (unheld : (field.shape.resolve known).heldModel? = none) :
    ∀ line ∈ (TypeScript.fieldLines (TypeScript.property settings known field)).annotations,
      annotationName line ≠ "Type" := by
  intro line member
  obtain ⟨decorator, carried, rfl⟩ := List.mem_map.mp member
  rw [TypeScript.annotationName_decorator]
  obtain ⟨_, ⟨held, holds, _⟩ | ⟨_, rfl⟩⟩ := TypeScript.mem_decorators_iff.mp carried
  · rw [unheld] at holds
    cases holds
  · simp [TypeScript.Decorator.importName]

/-- A model below at most one list is found. -/
theorem Field.findsModel (below : field.HoldsBelow known levels model) (named : model ≠ "")
    (shallow : levels ≤ 1) : field.FindsModel settings known levels model := by
  have held : (field.shape.resolve known).heldModel? = some model := by
    rw [below, FieldType.heldModel?_listed, if_pos shallow]
  have read : (Dart.fieldCode settings known field).read =
      (Dart.read (.listed levels (.model model))).pieces field.nullable := by rw [← below]; rfl
  have written : (Dart.fieldCode settings known field).write =
      (Dart.write (.listed levels (.model model))).text field.nullable field.name := by
    rw [← below]
    rfl
  refine ⟨held, fun mapped => mem_annotations_of_heldModel? mapped held named, ?_, ?_⟩
  -- The routines know exactly two forms, one for a model and one for a list of models.
  · rw [read]
    match levels, shallow with
    | 0, _ => exact Dart.readsModel_model model field.nullable
    | 1, _ => exact ⟨field.nullable, rfl⟩
  · rw [written]
    match levels, shallow with
    | 0, _ => exact Dart.writesModel_iff.mpr ⟨model, rfl⟩
    | 1, _ =>
        cases field.nullable with
        | false => exact ⟨".", by decide, rfl⟩
        | true => exact ⟨"?.", by decide, rfl⟩

/-- A model below several lists is overlooked. -/
theorem Field.overlooksModels (below : field.HoldsBelow known levels model) (deep : 1 < levels) :
    field.OverlooksModels settings known := by
  have unheld : (field.shape.resolve known).heldModel? = none := by
    rw [below, FieldType.heldModel?_listed, if_neg (Nat.not_le.mpr deep)]
  refine ⟨unheld, annotationName_ne_type unheld, ?_, ?_⟩
  · match levels, deep with
    | levels + 2, _ =>
        exact ⟨_, below, (Dart.readsList_fieldCode settings below).copied _ rfl⟩
  · show (Dart.write (field.shape.resolve known)).text field.nullable field.name = field.name
    rw [Dart.write_plain unheld]
    rfl

/-- A model below lists is looked up. -/
theorem Field.looksUpModel (named : "" ∉ known) (below : field.HoldsBelow known levels model) :
    field.LooksUpModel settings known levels model where
  printed language text := by
    rw [below, Language.typeBelow_type_iff]
    rfl
  found := by
    have isNamed : model ≠ "" := fun same => named (same ▸ Shape.mem_of_resolve_eq_listed below)
    refine ⟨fun finds => ?_, findsModel below isNamed⟩
    have held := finds.held
    rw [below, FieldType.heldModel?_listed] at held
    by_contra deep
    rw [if_neg deep] at held
    cases held
  overlooked := by
    refine ⟨fun overlooks => ?_, overlooksModels below⟩
    have unheld := overlooks.held
    rw [below, FieldType.heldModel?_listed] at unheld
    by_contra shallow
    rw [if_pos (Nat.not_lt.mp shallow)] at unheld
    cases unheld

end Lookup

/-- An object stands below several lists in a value that decides the type of a field, and is named
like a model of the document. -/
def Json.HidesModel (rootName : String) (members : List (String × Json)) : Prop :=
  ∃ value, DecidesField rootName members value ∧
    ∃ levels object, 1 < levels ∧ value.below? levels = some (.object object) ∧
      ∃ sources, ReadOff rootName members (Shape.referenceName object) sources

/-- All models that stand in the types of fields are found. -/
def ModelSet.FindsModels (set : ModelSet) (settings : Settings) : Prop :=
  ∀ model ∈ set.models, ∀ field ∈ model.fields, ∀ levels held,
    field.HoldsBelow set.names levels held → field.FindsModel settings set.names levels held

/-- The models of a document are looked up when the classes list the fields of the models, each
model in the type of a field is looked up there, and all of them are found unless an object below
several lists is named like a model. -/
structure ModelSet.LooksUpModels (set : ModelSet) (settings : Settings) (rootName : String)
    (members : List (String × Json)) : Prop where
  written : (Language.typeScript.emit settings set).code =
    fileText (Language.typeScript.header settings set)
      (set.models.map (Language.typeScript.modelLines settings set.names))
  fields : ∀ model ∈ set.models, (Language.typeScript.modelLines settings set.names model).fields =
    model.fields.map fun field =>
      TypeScript.fieldLines (TypeScript.property settings set.names field)
  routines : settings.style = some .fromJsonToJson →
    (Dart.file settings set).classes.map Dart.Class.lines = set.models.map fun model =>
      Dart.writtenLines model.name (settings.constructors && !model.fields.isEmpty)
        (model.fields.map (Dart.fieldCode settings set.names))
  each : ∀ model ∈ set.models, ∀ field ∈ model.fields, ∀ levels held,
    field.HoldsBelow set.names levels held → field.LooksUpModel settings set.names levels held
  all : set.FindsModels settings ↔ ¬ Json.HidesModel rootName members

namespace Extraction

variable {nullSafety : Bool} {name : String} {members : List (String × Json)}

/-- Some field holds a model below several lists exactly when the document hides one there. -/
theorem exists_holdsBelow_iff (wellFormed : (Json.object members).WellFormed) :
    (∃ model ∈ (ofMembers nullSafety name members).models.models, ∃ field ∈ model.fields,
        ∃ levels held, 1 < levels ∧
          field.HoldsBelow (ofMembers nullSafety name members).models.names levels held) ↔
      Json.HidesModel name members := by
  have unknown : ¬ ∃ levels held, 1 < levels ∧
      Shape.dynamic.resolve (ofMembers nullSafety name members).models.names =
        .listed levels (.model held) := by
    rintro ⟨levels, held, deep, same⟩
    match levels, deep with
    | levels + 2, _ => cases same
  refine (exists_field_iff wellFormed (fun shape => ∃ levels held, 1 < levels ∧
    shape.resolve (ofMembers nullSafety name members).models.names =
      .listed levels (.model held)) unknown).trans ?_
  have typed (held : String) : FieldType.model held ≠ .dynamic := by simp
  simp only [Shape.resolve_infer_eq_listed_iff (typed _), Shape.resolve_infer_eq_model_iff,
    mem_names_ofMembers wellFormed]
  constructor
  · rintro ⟨value, decides, levels, _, deep, _, shown, object, rfl, rfl, readOff⟩
    exact ⟨value, decides, levels, object, deep, shown, readOff⟩
  · rintro ⟨value, decides, levels, object, deep, shown, readOff⟩
    exact ⟨value, decides, levels, _, deep, _, shown, object, rfl, rfl, readOff⟩

/-- All models are found unless an object below several lists is named like a model. -/
theorem findsModels_iff (wellFormed : (Json.object members).WellFormed) (given : String)
    (settings : Settings) :
    (ofMembers nullSafety (rootName given) members).models.FindsModels settings ↔
      ¬ Json.HidesModel (rootName given) members := by
  rw [← exists_holdsBelow_iff wellFormed]
  constructor
  · rintro finds ⟨model, member, field, present, levels, held, deep, below⟩
    have shallow := (Field.looksUpModel empty_notMem_names below).found.mp
      (finds model member field present levels held below)
    exact absurd deep (Nat.not_lt.mpr shallow)
  · intro shallow model member field present levels held below
    refine (Field.looksUpModel empty_notMem_names below).found.mpr (Nat.not_lt.mp ?_)
    intro deep
    exact shallow ⟨model, member, field, present, levels, held, deep, below⟩

/-- The models that the types of a document name are looked up. -/
theorem models_looked_up {document : Json} {members : List (String × Json)}
    (wellFormed : document.WellFormed) (root : document.heldObject? = some members)
    (nullSafety : Bool) (given : String) (settings : Settings) :
    ∃ extraction, ofDocument nullSafety given document = .ok extraction ∧
      extraction.models.LooksUpModels settings (rootName given) members := by
  refine ⟨_, ofDocument_eq_ok_iff.mpr ⟨members, root, rfl⟩, ?_, ?_,
    fun manual => Dart.lines_file manual _, ?_, ?_⟩
  · rw [Language.code_emit, Language.classLines_eq_map]
  · intro model _
    exact List.map_map
  · intro model _ field _ levels held below
    exact Field.looksUpModel empty_notMem_names below
  · exact findsModels_iff (wellFormed.object_held root) given settings

/-- In this document books stand in fields, below one list and below two lists. -/
def bookRoom : List (String × Json) :=
  [("latest", .object [("title", .string "x")]), ("shelf", .array [.object [("title", .null)]]),
   ("cases", .array [.array [.object [("title", .string "y"), ("pages", .integer 9)]]]),
   ("crates", .array [.array [.object [("label", .string "z")]]])]

/-- The models that the types of the document name are looked up. -/
theorem bookRoom_models_looked_up :
    (Json.object bookRoom).WellFormed ∧ (Json.object bookRoom).heldObject? = some bookRoom ∧
      ∃ extraction, ofDocument false "Room" (.object bookRoom) = .ok extraction ∧
        extraction.models.LooksUpModels ⟨false, some .classTransformer, ""⟩ (rootName "Room")
          bookRoom := by
  have wellFormed : (Json.object bookRoom).WellFormed := by decide
  exact ⟨wellFormed, rfl,
    models_looked_up wellFormed rfl false "Room" ⟨false, some .classTransformer, ""⟩⟩

/-- In this document an object below two lists is named like a model. -/
def hiddenId : List (String × Json) :=
  [("first", .object [("id", .integer 1)]),
   ("grid", .array [.array [.object [("id", .integer 2)]]])]

/-- The type of a field names the model, but the field overlooks it. -/
theorem hiddenId_not_found :
    ∃ extraction, ofDocument false "Model" (.object hiddenId) = .ok extraction ∧
      ∀ settings, ¬ extraction.models.FindsModels settings := by
  refine ⟨ofMembers false "Model" hiddenId, rfl, fun settings finds => ?_⟩
  have wellFormed : (Json.object hiddenId).WellFormed := by decide
  have hidden : Json.HidesModel (rootName "Model") hiddenId :=
    ⟨_, ⟨_, _, .root, "grid", rfl⟩, 2, _, by decide, rfl, _, .nested (by decide)⟩
  exact (findsModels_iff wellFormed "Model" settings).mp finds hidden

end Extraction

end Exemplar
