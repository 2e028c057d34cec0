import Exemplar.Proofs.LegibleTypes
import Exemplar.Proofs.UsedImports

namespace Exemplar

open Naming

namespace Kotlin

/-- A field is declared after four blanks and a keyword by its name and its type. -/
def fieldOutline? : List Char → Option FieldOutline
  | ' ' :: ' ' :: ' ' :: ' ' :: 'v' :: rest =>
      let text := rest.drop 3
      some ⟨String.ofList (text.takeWhile isWordCharacter), false,
        String.ofList (declaredType ((text.dropWhile isWordCharacter).drop 2))⟩
  | _ => none

/-- A plain name before a colon is read as the name of a field. -/
theorem fieldOutline?_declaration {name : List Char} (plain : isPlainText name = true)
    (form : Form) (type : List Char) :
    fieldOutline? (' ' :: ' ' :: ' ' :: ' ' :: (form.keyword.toList ++ ' ' ::
        (name ++ ':' :: ' ' :: type))) =
      some ⟨String.ofList name, false, String.ofList (declaredType type)⟩ := by
  obtain ⟨taken, dropped⟩ :=
    @span_append _ _ (':' :: ' ' :: type) (all_of_isPlainText plain) rfl
  cases form <;> simp [fieldOutline?, Form.keyword, taken, dropped]

/-- The marked text of a legible type is legible. -/
theorem isLegible_nullableType {type : FieldType}
    (legible : isLegible (dialect.type type).toList = true) (nullable : Bool) :
    isLegible (nullableType type nullable).toList = true := by
  cases nullable with
  | false => exact legible
  | true =>
      rw [nullableType, if_pos rfl, String.toList_append]
      exact isLegible_append legible (by decide) ⟨[], '?', by decide, by decide⟩

/-- The lines of a property show its name and its marked type. -/
theorem shows_fieldLines (form : Form) {ending : String} (ends : ending ∈ ["", ",", ";"])
    {property : Property} (named : IsPlain property.name)
    (legible : isLegible (dialect.type property.type).toList = true)
    (marked : ∀ marker ∈ property.marker, IsPlain marker.key)
    (initial : ∀ value ∈ property.initialValue, '\n' ∉ value.text.toList) :
    (fieldLines form ending property).Shows fieldOutline?
      ⟨property.name, false, nullableType property.type property.nullable⟩ where
  annotations := by
    intro line member
    rw [fieldLines, Property.markerLines] at member
    cases isMarker : property.marker with
    | none =>
        rw [isMarker] at member
        cases member
    | some marker =>
        rw [isMarker] at member
        rw [List.mem_singleton.mp member]
        have keyUnbroken := (unbroken_quoted (marked marker isMarker)).2.2
        have kindUnbroken : '\n' ∉ marker.kind.name.toList := by cases marker.kind <;> decide
        constructor
        · simp [Marker.text, kindUnbroken, keyUnbroken]
        · simp +decide [Marker.text, tell, fieldOutline?]
  declaration := by
    have nameUnbroken := unbroken_of_isPlain named
    have declaredLegible := isLegible_nullableType legible property.nullable
    have declaredUnbroken := unbroken_of_isLegible declaredLegible
    have text : ((fieldLines form ending property).before ++
        (fieldLines form ending property).name ++ (fieldLines form ending property).after).toList =
          ' ' :: ' ' :: ' ' :: ' ' :: (form.keyword.toList ++ ' ' :: (property.name.toList ++
            ':' :: ' ' :: (nullableType property.type property.nullable ++
              (assigned (property.initialValue.map InitialValue.text) ++ ending)).toList)) := by
      simp [fieldLines]
    have read := declaredType_declaration declaredLegible
      (property.initialValue.map InitialValue.text) ends
    have keywordUnbroken : '\n' ∉ form.keyword.toList := by cases form <;> decide
    have endingUnbroken : '\n' ∉ ending.toList := by
      simp only [List.mem_cons, List.not_mem_nil, or_false] at ends
      rcases ends with rfl | rfl | rfl <;> decide
    have valueUnbroken :
        '\n' ∉ (assigned (property.initialValue.map InitialValue.text)).toList := by
      cases isValue : property.initialValue with
      | none => exact List.not_mem_nil
      | some value => simpa [assigned] using initial value isValue
    constructor
    · rw [text]
      simp [keywordUnbroken, nameUnbroken, declaredUnbroken, valueUnbroken, endingUnbroken]
    · rw [text, tell_indented (fieldOutline?_declaration named form _), read]
      simp

/-- What a property starts with is written on one line when its type is. -/
theorem unbroken_initialValue {type : FieldType} (unbroken : '\n' ∉ (dialect.type type).toList)
    (field : Field) : '\n' ∉ (initialValue type field).text.toList := by
  unfold initialValue
  split
  · decide
  · split
    next initializer natural => exact unbroken_initializer .kotlin unbroken natural
    · decide

/-- A plain name ends in no blank. -/
theorem trimEnd_append {before name : List Char} (plain : isPlainText name = true) :
    Unicode.trimEnd (before ++ name) = before ++ name := by
  have word := all_of_isPlainText plain
  obtain ⟨first, rest, rfl, _⟩ := exists_cons_of_isPlainText plain
  obtain ⟨earlier, last, ends⟩ :=
    (List.eq_nil_or_concat' _).resolve_left (List.cons_ne_nil first rest)
  have notBlank : Unicode.isBlank last = false := by
    have lastWord := List.all_eq_true.mp word last (by simp [ends])
    clear ends word
    obtain ⟨code, isAscii, rfl⟩ := exists_ascii_of_isWordCharacter lastWord
    revert code
    decide +kernel
  rw [ends, ← List.append_assoc, Unicode.trimEnd, List.reverse_append, List.reverse_singleton,
    List.singleton_append, List.dropWhile_cons_of_neg (by simp [notBlank])]
  simp

/-- The class of a plain model shows its outline. -/
theorem shows_declare (settings : Settings) {known : NameSet}
    (names : ∀ name ∈ known, IsPlain name) {model : Model} (plain : model.IsPlain) :
    (classLines (declare settings known model)).Shows fieldOutline?
      (model.outline .kotlin known) where
  annotations := by
    simp only [classLines]
    split
    · exact List.forall_mem_singleton.mpr ⟨by decide, rfl⟩
    · exact fun _ missing => absurd missing List.not_mem_nil
  opening := by
    have keyword : "class " = "class" ++ " " := rfl
    have dataKeyword : "data class " = "data class" ++ " " := rfl
    obtain ⟨name, fields⟩ := model
    cases fields with
    | nil =>
        have trimmed : String.ofList (Unicode.trimEnd ("class " ++ name).toList) =
            "class" ++ " " ++ name ++ "" := by
          rw [String.toList_append, trimEnd_append plain.name, ← String.toList_append,
            String.ofList_toList, String.append_empty]
          rfl
        simp only [classLines, declare, List.map_nil, trimmed]
        exact tells_opening (by decide) (by decide) plain.name (by decide) (by decide)
    | cons first rest =>
        cases constructors : settings.constructors <;>
          simp only [classLines, declare, List.map_cons, constructors, keyword, dataKeyword] <;>
          exact tells_opening (by decide) (by decide) plain.name (by decide) (by decide)
  fields := by
    have each (form : Form) (ending : String) (ends : ending ∈ ["", ",", ";"]) :
        ∀ field ∈ model.fields, (fieldLines form ending (property settings known field)).Shows
          fieldOutline? (field.outline .kotlin known) := by
      intro field member
      have legible := (Language.legible_dialect .kotlin).type names field.shape
      have shown := @shows_fieldLines form ending ends (property settings known field)
        (plain.fields field member).name legible
      refine shown ?_ ?_
      · intro marker isMarker
        simp only [property, marker?, Option.mem_def] at isMarker
        split at isMarker
        · obtain ⟨kind, _, rfl⟩ := Option.map_eq_some_iff.mp isMarker
          exact (plain.fields field member).key
        · cases isMarker
      · intro value isValue
        simp only [property, Option.mem_def] at isValue
        split at isValue
        · cases isValue
        · cases isValue
          exact unbroken_initialValue (unbroken_of_isLegible legible) field
    have shown (form : Form) : List.Forall₂
        (fun field lines => lines.Shows fieldOutline? (field.outline .kotlin known)) model.fields
        (propertyFields (model.fields.map (property settings known)) form) :=
      forall₂_propertyFields (each form "" (by simp)) (each form "," (by simp))
    rw [Model.outline, List.forall₂_map_right_iff]
    exact (shown _).flip
  below := by
    obtain ⟨name, fields⟩ := model
    cases fields with
    | nil => exact fun _ missing => absurd missing List.not_mem_nil
    | cons first rest =>
        cases constructors : settings.constructors <;>
          simp only [classLines, declare, List.map_cons, constructors] <;>
          exact List.forall_mem_singleton.mpr ⟨by decide, rfl⟩

/-- Trimmed blanks stand at the end of a text. -/
theorem exists_trimmed (text : List Char) :
    ∃ blanks, text = Unicode.trimEnd text ++ blanks ∧ blanks.all Unicode.isBlank = true := by
  refine ⟨(text.reverse.takeWhile Unicode.isBlank).reverse, ?_, ?_⟩
  · rw [Unicode.trimEnd, ← List.reverse_append, List.takeWhile_append_dropWhile,
      List.reverse_reverse]
  · rw [List.all_reverse, List.all_takeWhile]

/-- Blanks tell nothing. -/
theorem readAbove_blanks {blanks : List Char} (blank : blanks.all Unicode.isBlank = true)
    (below : Outlined) : readAbove fieldOutline? blanks below = below := by
  refine readAbove_of_nothing ?_ below
  intro line listed
  have blankLine : ∀ character ∈ line, Unicode.isBlank character = true := by
    rw [List.all_eq_true] at blank
    exact fun character member => blank character (mem_of_mem_line listed member)
  have notField : fieldOutline? line = none := by
    unfold fieldOutline?
    split
    next rest =>
      exact absurd (blankLine 'v' (by simp)) (by decide)
    next => rfl
  cases line with
  | nil => rfl
  | cons first rest =>
      have notOpening : isOpeningLetter first = false := by
        have blankFirst := blankLine first List.mem_cons_self
        simp only [isOpeningLetter, Bool.or_eq_false_iff, beq_eq_false_iff_ne]
        refine ⟨⟨?_, ?_⟩, ?_⟩ <;> rintro rfl <;> exact absurd blankFirst (by decide)
      simp [tell, notOpening, notField]

/-- A line that imports an annotation tells nothing. -/
theorem tells_import {file : File} {name : String} (imported : name ∈ file.imports) :
    LineTells fieldOutline? ("import " ++ name) .nothing := by
  have unbroken : '\n' ∉ name.toList := by
    rcases mem_imports_iff.mp imported with ⟨rfl, _⟩ | ⟨marker, _, rfl⟩
    · decide
    · cases marker.kind <;> decide
  constructor
  · simp [unbroken]
  · simp +decide [tell, fieldOutline?]

/-- This is the part of the package declaration that is written in any case. -/
def packagePrefix (package : String) : List Char :=
  Unicode.trimEnd ("package " ++ package).toList

/-- The header of a file starts with the declaration of its package, and all that follows tells
nothing. -/
theorem exists_header (file : File) :
    ∃ blanks later, file.header = String.ofList (packagePrefix file.package ++ blanks) :: later ∧
      blanks.all Unicode.isBlank = true ∧
      ∀ part ∈ later, ∀ below, readAbove fieldOutline? part.toList below = below := by
  unfold File.header
  dsimp only
  split
  · refine ⟨[], [], ?_, rfl, fun _ missing => absurd missing List.not_mem_nil⟩
    rw [List.append_nil]
    rfl
  · obtain ⟨blanks, written, blank⟩ := exists_trimmed ("package " ++ file.package).toList
    refine ⟨blanks, ["\n".intercalate (file.imports.map fun name => "import " ++ name)], ?_, blank,
      List.forall_mem_singleton.mpr ?_⟩
    · rw [packagePrefix, ← written, String.ofList_toList]
    · intro below
      rw [readAbove_intercalate parts_lineFeed]
      refine foldr_readAbove_of_nothing ?_ below
      intro line listed
      obtain ⟨name, imported, rfl⟩ := List.mem_map.mp listed
      exact tells_import imported

end Kotlin

end Exemplar
