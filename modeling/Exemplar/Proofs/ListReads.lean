import Exemplar.Proofs.ListLevels
import Exemplar.Proofs.WrittenRoutines

namespace Exemplar

namespace Dart

/-- Decoded items are of these types already, so a list of them may be copied. Numbers are not among
them, because a list may mix integers and floats, and neither are the types of lists. -/
def copyableTypes : List String :=
  ["String", "bool", "dynamic", "Map<String, dynamic>"]

/-- An expression copies a list of items of a type. -/
def Copies (item : String) (pieces : List String) : Prop :=
  ∃ nullable, pieces = testedPieces nullable ("List<" ++ item ++ ">.from(") " as List<dynamic>)"

/-- This function writes the expression that converts what stands below levels of lists in an item.
The items of every level are called `e`. -/
def itemsBelow (conversion : String) : Nat → String
  | 0 => conversion
  | levels + 1 => "(e as List<dynamic>)." ++ mapItems (itemsBelow conversion levels)

/-- An expression converts what stands below levels of lists in the items of a list. -/
def ConvertsItems (conversion : String) (levels : Nat) (pieces : List String) : Prop :=
  ∃ nullable, pieces =
    calledPieces nullable "List<dynamic>" (mapItems (itemsBelow conversion levels))

/-- The list of a type is read right when it is copied only if decoded items are of its type, and
numbers are converted below all levels. -/
structure ReadsRight (type : FieldType) (pieces : List String) : Prop where
  copied : ∀ item, Copies item pieces → item ∈ copyableTypes
  converted : ∀ levels number conversion, type = .listed (levels + 1) (.primitive number) →
    conversion? number = some conversion →
      ConvertsItems ("(e as num)." ++ conversion.text) levels pieces

/-- A decoded value is of these types at run time. Every value is of the type of any value, and a
decoded list holds values of any type, so it is of no other list type. -/
inductive Decoded : Json → FieldType → Prop where
  | anything (value : Json) : Decoded value .dynamic
  | boolean (value : Bool) : Decoded (.boolean value) (.primitive .boolean)
  | integer (value : Int) : Decoded (.integer value) (.primitive .integer)
  | float (value : Binary64) : Decoded (.float value) (.primitive .float)
  | string (value : String) : Decoded (.string value) (.primitive .string)
  | array (items : List Json) : Decoded (.array items) (.list .dynamic)
  | object (members : List (String × Json)) : Decoded (.object members) .object

section Copies

variable {nullable other : Bool} {item first last : String}

theorem eq_of_testedPieces {otherFirst otherLast : String}
    (same : testedPieces nullable first last = testedPieces other otherFirst otherLast) :
    first = otherFirst ∧ last = otherLast := by
  cases nullable <;> cases other <;> simp_all [testedPieces]

/-- A call after a cast starts with an opening parenthesis, so it is no other expression. -/
theorem calledPieces_ne_testedPieces {type call : String} (noCall : first ≠ "(") :
    calledPieces nullable type call ≠ testedPieces other first last := by
  intro same
  cases nullable <;> cases other <;> simp [calledPieces, testedPieces, noCall.symm] at same

theorem copy_eq (item : String) : "List<" ++ item ++ ">.from(" = dialect.list item ++ ".from(" := by
  simp [dialect, String.append_assoc]

theorem copy_ne_parenthesis (item : String) : "List<" ++ item ++ ">.from(" ≠ "(" := by
  simp [← String.toList_inj]

/-- Exactly a copy is an expression that copies, and its type is told by the expression. -/
theorem copies_pieces_iff {read : Read} :
    Copies item (read.pieces nullable) ↔
      ∃ type, read = .copy type ∧ dialect.type type = dialect.list item := by
  constructor
  · rintro ⟨other, same⟩
    cases read with
    | copy type =>
        refine ⟨type, rfl, (String.append_left_inj ".from(").mp ?_⟩
        rw [(eq_of_testedPieces same).1, copy_eq]
    | model name => simpa [objectType] using (eq_of_testedPieces same).2
    | models | number | numbers =>
        exact absurd same (calledPieces_ne_testedPieces (copy_ne_parenthesis item))
    | cast type => cases other <;> simp [Read.pieces, testedPieces] at same
    | asIs => cases other <;> simp [Read.pieces, testedPieces] at same
  · rintro ⟨type, rfl, spelled⟩
    refine ⟨nullable, ?_⟩
    rw [Read.pieces, spelled, copy_eq]

/-- A list is copied exactly when its items are neither models nor numbers. -/
theorem copies_list_iff {type : FieldType} :
    Copies item ((read (.list type)).pieces nullable) ↔
      item = dialect.type type ∧ (∀ model, type ≠ .model model) ∧
        ∀ number, type = .primitive number → conversion? number = none := by
  have spelled : dialect.type (.list type) = dialect.list item ↔ item = dialect.type type :=
    (Language.list_injective .dart).eq_iff.trans eq_comm
  rw [copies_pieces_iff, ← spelled]
  cases type with
  | primitive primitive => cases primitive <;> simp [read, conversion?]
  | _ => simp [read]

end Copies

/-- The list of a type is read right exactly when its items are no lists. -/
theorem readsRight_iff {type : FieldType} {nullable : Bool} :
    ReadsRight (.list type) ((read (.list type)).pieces nullable) ↔
      ∀ inner, type ≠ .list inner := by
  constructor
  · rintro right inner rfl
    have copies : Copies (dialect.type (.list inner))
        ((read (.list (.list inner))).pieces nullable) :=
      copies_list_iff.mpr ⟨rfl, by simp, by simp⟩
    have listed := right.copied _ copies
    simp [copyableTypes, Dialect.type, dialect, ← String.toList_inj] at listed
  · intro unlisted
    refine ⟨fun item copies => ?_, fun levels number conversion levelled converts => ?_⟩
    · obtain ⟨rfl, noModel, noNumber⟩ := copies_list_iff.mp copies
      cases type with
      | primitive primitive =>
          have unconverted := noNumber primitive rfl
          cases primitive <;> first | decide | cases unconverted
      | dynamic => decide
      | object => decide
      | model name => exact absurd rfl (noModel name)
      | list inner => exact absurd rfl (unlisted inner)
    · cases levels with
      | succ levels => exact absurd (FieldType.list.inj levelled) (unlisted _)
      | zero =>
          obtain rfl := FieldType.list.inj levelled
          refine ⟨nullable, ?_⟩
          simp only [FieldType.listed, read, converts]
          rfl

/-- The first item of a copied list is of the type of the copy at run time unless that is a list of
known items. -/
theorem decoded_first_iff {known : NameSet} {first : Json} {item : String} {nullable : Bool}
    (copies : Copies item
      ((read (.list ((Shape.infer first).resolve known))).pieces nullable)) :
    Decoded first ((Shape.infer first).resolve known) ↔
      ∀ inner, (Shape.infer first).resolve known = .list inner → inner = .dynamic := by
  -- What is copied is neither a number nor a model, which leaves the values whose type is kept when
  -- they are decoded, and the lists.
  obtain ⟨_, noModel, noNumber⟩ := copies_list_iff.mp copies
  cases first with
  | null => exact iff_of_true (.anything _) (by simp [Shape.infer, Shape.resolve])
  | boolean value => exact iff_of_true (.boolean value) (by simp [Shape.infer, Shape.resolve])
  | string value => exact iff_of_true (.string value) (by simp [Shape.infer, Shape.resolve])
  | integer value => cases noNumber .integer rfl
  | float value =>
      rw [Shape.infer] at noNumber
      split at noNumber
      · cases noNumber .integer rfl
      · cases noNumber .float rfl
  | object members =>
      rw [Shape.infer, Shape.resolve] at noModel ⊢
      split at noModel
      · exact absurd rfl (noModel _)
      next unknown =>
        rw [if_neg unknown]
        exact iff_of_true (.object members) (by simp)
  | array items =>
      constructor
      · intro decoded inner same
        rw [same] at decoded
        cases decoded
        rfl
      · intro untyped
        cases items with
        | nil => exact .array []
        | cons second later =>
            have unknown := untyped _ rfl
            show Decoded _ (.list _)
            rw [unknown]
            exact .array _

/-- The code of a list field reads the list right unless its items are lists. Such a list is copied,
and any copy takes the first item of a list that the field was inferred from exactly if that item is
no list of known items. -/
structure FieldCode.ReadsList (field : Field) (type : FieldType) (code : FieldCode) : Prop where
  right : ReadsRight (.list type) code.read ↔ ∀ inner, type ≠ .list inner
  copied : ∀ inner, type = .list inner → Copies (dialect.type type) code.read
  takes : Copies (dialect.type type) code.read → ∀ first rest,
    field.shape = Shape.infer (.array (first :: rest)) →
      (Decoded first type ↔ ∀ inner, type = .list inner → inner = .dynamic)

/-- All lists of a model set are read right. -/
def ListsReadRight (settings : Settings) (set : ModelSet) : Prop :=
  ∀ model ∈ set.models, ∀ field ∈ model.fields, ∀ type,
    field.shape.resolve set.names = .list type →
      ReadsRight (.list type) (fieldCode settings set.names field).read

/-- The code of a list field reads the list as its type says. -/
theorem readsList_fieldCode (settings : Settings) {known : NameSet} {field : Field}
    {type : FieldType} (list : field.shape.resolve known = .list type) :
    (fieldCode settings known field).ReadsList field type := by
  have pieces : (fieldCode settings known field).read =
      (read (.list type)).pieces field.nullable := by rw [← list]; rfl
  refine ⟨?_, ?_, ?_⟩
  · rw [pieces]
    exact readsRight_iff
  · rintro inner rfl
    rw [pieces]
    exact copies_list_iff.mpr ⟨rfl, by simp, by simp⟩
  · intro copies first rest shape
    have item : (Shape.infer first).resolve known = type := by
      rw [shape] at list
      exact FieldType.list.inj list
    rw [pieces, ← item] at copies
    rw [← item]
    exact decoded_first_iff copies

end Dart

/-- Some value that decides the type of a field shows a list below its first level. -/
def Json.ShowsInnerList (rootName : String) (members : List (String × Json)) : Prop :=
  ∃ value, DecidesField rootName members value ∧ ∃ items, value.below? 1 = some (.array items)

/-- A value shows a list below its first level exactly when its type is a list of lists. -/
theorem Shape.resolve_infer_eq_list_list_iff {known : NameSet} {value : Json} :
    (∃ inner, (infer value).resolve known = .list (.list inner)) ↔
      ∃ items, value.below? 1 = some (.array items) := by
  constructor
  · rintro ⟨inner, same⟩
    have listed : (infer value).resolve known = .listed 1 (.list inner) := same
    obtain ⟨item, shown, list⟩ := (resolve_infer_eq_listed_iff (by simp)).mp listed
    obtain ⟨items, rfl⟩ := exists_items_of_resolve_infer list
    exact ⟨items, shown⟩
  · rintro ⟨items, shown⟩
    have same : (infer value).resolve known = .listed 1 ((infer (.array items)).resolve known) :=
      resolve_infer_of_below shown
    cases items with
    | nil => exact ⟨_, same⟩
    | cons first rest => exact ⟨_, same⟩

/-- The lists of a document are read as their types say when the classes are written from codes that
read each list so, and all lists are read right unless a list shows a list. -/
structure Dart.ReadsLists (settings : Settings) (set : ModelSet) (rootName : String)
    (members : List (String × Json)) : Prop where
  written : (file settings set).classes.map Class.lines = set.models.map fun model =>
    writtenLines model.name (settings.constructors && !model.fields.isEmpty)
      (model.fields.map (fieldCode settings set.names))
  each : ∀ model ∈ set.models, ∀ field ∈ model.fields, ∀ type,
    field.shape.resolve set.names = .list type →
      (fieldCode settings set.names field).ReadsList field type
  all : ListsReadRight settings set ↔ ¬ Json.ShowsInnerList rootName members

/-- In the manual style the classes of a file are written from the codes of the fields. -/
theorem Dart.lines_file {settings : Settings} (manual : settings.style = some .fromJsonToJson)
    (set : ModelSet) :
    (file settings set).classes.map Class.lines = set.models.map fun model =>
      writtenLines model.name (settings.constructors && !model.fields.isEmpty)
        (model.fields.map (fieldCode settings set.names)) := by
  rw [file, List.map_map]
  exact List.map_congr_left fun model _ => lines_declare _ manual model

namespace Extraction

/-- All lists of a document are read right unless a list shows a list. -/
theorem listsReadRight_iff {name : String} {members : List (String × Json)}
    (wellFormed : (Json.object members).WellFormed) (nullSafety : Bool) (settings : Settings) :
    Dart.ListsReadRight settings (ofMembers nullSafety name members).models ↔
      ¬ Json.ShowsInnerList name members := by
  have shown : (∃ model ∈ (ofMembers nullSafety name members).models.models,
      ∃ field ∈ model.fields, ∃ inner, field.shape.resolve
        (ofMembers nullSafety name members).models.names = .list (.list inner)) ↔ _ :=
    exists_field_iff wellFormed (fun shape => ∃ inner,
      shape.resolve (ofMembers nullSafety name members).models.names = .list (.list inner))
      (by simp [Shape.resolve])
  simp only [Shape.resolve_infer_eq_list_list_iff] at shown
  rw [Json.ShowsInnerList, ← shown]
  constructor
  · rintro right ⟨model, member, field, present, inner, list⟩
    have rightField := right model member field present _ list
    exact (Dart.readsList_fieldCode settings list).right.mp rightField inner rfl
  · intro unlisted model member field present type list
    refine (Dart.readsList_fieldCode settings list).right.mpr ?_
    rintro inner rfl
    exact unlisted ⟨model, member, field, present, inner, list⟩

/-- In the manual style the lists of a document are read as their types say. -/
theorem lists_read {document : Json} {members : List (String × Json)}
    (wellFormed : document.WellFormed) (root : document.heldObject? = some members)
    (nullSafety : Bool) (given : String) (settings : Settings)
    (manual : settings.style = some .fromJsonToJson) :
    ∃ extraction, ofDocument nullSafety given document = .ok extraction ∧
      Dart.ReadsLists settings extraction.models (rootName given) members := by
  refine ⟨_, ofDocument_eq_ok_iff.mpr ⟨members, root, rfl⟩, Dart.lines_file manual _, ?_, ?_⟩
  · intro model _ field _ type list
    exact Dart.readsList_fieldCode settings list
  · exact listsReadRight_iff (wellFormed.object_held root) nullSafety settings

/-- In this document lists hold texts, numbers, objects, nothing and lists. -/
def scoreTable : List (String × Json) :=
  [("names", .array [.string "Ada", .null]), ("marks", .array [.integer 7, .integer 9]),
   ("rounds", .array [.array [.integer 3], .array []]), ("blank", .array [.array []]),
   ("teams", .array [.object [("tags", .array []), ("seats", .array [.boolean true])]])]

/-- The lists of the document are read as their types say. -/
theorem scoreTable_lists_read :
    (Json.object scoreTable).WellFormed ∧
      (Json.object scoreTable).heldObject? = some scoreTable ∧
      (manualSettings true).style = some .fromJsonToJson ∧
      ∃ extraction, ofDocument false "Table" (.object scoreTable) = .ok extraction ∧
        Dart.ReadsLists (manualSettings true) extraction.models (rootName "Table") scoreTable := by
  have wellFormed : (Json.object scoreTable).WellFormed := by decide
  exact ⟨wellFormed, rfl, rfl, lists_read wellFormed rfl false "Table" (manualSettings true) rfl⟩

/-- In this document a list holds a list of a float and an integer. -/
def mixedGrid : List (String × Json) :=
  [("grid", .array [.array [.float (.ofDecimal false 15 (-1)), .integer 2]])]

/-- The list of the document is copied as a list of lists of floats. -/
theorem mixedGrid_not_readRight :
    ∃ extraction, ofDocument false "Model" (.object mixedGrid) = .ok extraction ∧
      ∀ settings, ¬ Dart.ListsReadRight settings extraction.models := by
  refine ⟨ofMembers false "Model" mixedGrid, rfl, fun settings right => ?_⟩
  have wellFormed : (Json.object mixedGrid).WellFormed := by decide
  exact (listsReadRight_iff wellFormed false settings).mp right
    ⟨_, ⟨_, _, .root, "grid", rfl⟩, _, rfl⟩

end Extraction

end Exemplar
