import Exemplar.Proofs.LegibleTypes

namespace Exemplar

open Naming

namespace Dart

/-- The type and the name of a field stand before its initial value and its end, and no parameter
list opens before them. -/
def isInside (character : Char) : Bool :=
  character != '(' && !isStop character

/-- A field is declared after two blanks by its type and its name, unless a parameter list follows.
The type of a final field follows a keyword. -/
def fieldOutline? (final : Bool) : List Char → Option FieldOutline
  | ' ' :: ' ' :: first :: rest =>
      let declared := (first :: rest).takeWhile isInside
      if isWordCharacter first && ((first :: rest).dropWhile isInside).head? != some '(' then
        some ⟨String.ofList (lastWord declared), false,
          String.ofList (trimGaps ((beforeLastWord declared).drop (if final then 6 else 0)))⟩
      else none
  | _ => none

theorem isInside_of_isTypeCharacter {character : Char}
    (typed : isTypeCharacter character = true) : isInside character = true := by
  obtain ⟨unstopped, unopened, _⟩ := isTypeCharacter_apart typed
  simp [isInside, unstopped, unopened]

/-- A plain name stands inside a declaration. -/
theorem all_isInside_of_isPlain {name : List Char} (plain : isPlainText name = true) :
    name.all isInside = true := by
  have word := all_of_isPlainText plain
  rw [List.all_eq_true] at word ⊢
  exact fun character member => isInside_of_isTypeCharacter
    (isTypeCharacter_of_isWordCharacter (word character member)).1

/-- The marked text of a legible type is legible. -/
theorem isLegible_nullableType {type : FieldType}
    (legible : isLegible (dialect.type type).toList = true) (nullable : Bool) :
    isLegible (nullableType type nullable).toList = true := by
  simp only [nullableType]
  split
  · rw [String.toList_append]
    exact isLegible_append legible (by decide) ⟨[], '?', by decide, by decide⟩
  · exact legible

/-- A line that opens a parameter list declares no field. -/
theorem tells_call (final : Bool) {before rest : String}
    (inside : before.toList.all isInside = true) (unbroken : '\n' ∉ before.toList)
    (restUnbroken : '\n' ∉ rest.toList) :
    LineTells (fieldOutline? final) ("  " ++ before ++ "(" ++ rest) .nothing where
  unbroken := by simp [unbroken, restUnbroken]
  told := by
    have text : ("  " ++ before ++ "(" ++ rest).toList =
        ' ' :: ' ' :: (before.toList ++ '(' :: rest.toList) := by simp
    obtain ⟨_, dropped⟩ := @span_append _ _ ('(' :: rest.toList) inside rfl
    rw [text]
    cases characters : before.toList with
    | nil => simp +decide [tell, fieldOutline?]
    | cons first later =>
        rw [characters, List.cons_append] at dropped
        simp [tell, fieldOutline?, dropped, isOpeningLetter]

/-- The keyword that a final field starts with is six characters long. -/
def finalKeyword (final : Bool) : List Char :=
  if final then "final ".toList else []

/-- All that stands before the end of a declaration stands inside it. -/
theorem all_isInside_declaration (final : Bool) {type name gaps : List Char}
    (legible : isLegible type = true) (plain : isPlainText name = true)
    (gap : gaps.all isGap = true) :
    (finalKeyword final ++ type ++ ' ' :: (name ++ gaps)).all isInside = true := by
  obtain ⟨_, typed, _⟩ := isLegible_iff.mp legible
  have inKeyword : (finalKeyword final).all isInside = true := by cases final <;> decide
  have inType : type.all isInside = true := by
    rw [List.all_eq_true] at typed ⊢
    exact fun character member => isInside_of_isTypeCharacter (typed character member)
  have inGaps : gaps.all isInside = true := by
    rw [List.all_eq_true] at gap ⊢
    intro character member
    rcases isGap_iff.mp (gap character member) with rfl | rfl <;> rfl
  rw [List.all_append, List.all_append, List.all_cons, List.all_append, inKeyword, inType,
    all_isInside_of_isPlain plain, inGaps]
  rfl

/-- A declaration with a legible type starts with a character of a word. -/
theorem exists_cons_declaration (final : Bool) {type : List Char} (legible : isLegible type = true)
    (rest : List Char) :
    ∃ first later, finalKeyword final ++ type ++ rest = first :: later ∧
      isWordCharacter first = true := by
  obtain ⟨⟨first, later, rfl, word⟩, _⟩ := isLegible_iff.mp legible
  cases final with
  | false => exact ⟨first, _, rfl, word⟩
  | true => exact ⟨'f', _, rfl, by decide⟩

/-- The type of a field is what stands between the keyword and the name. -/
theorem trimGaps_drop (final : Bool) {type : List Char} (legible : isLegible type = true) :
    trimGaps ((finalKeyword final ++ type ++ [' ']).drop (if final then 6 else 0)) = type := by
  have dropped : (finalKeyword final ++ type ++ [' ']).drop (if final then 6 else 0) =
      type ++ [' '] := by
    cases final <;> simp [finalKeyword]
  rw [dropped, trimGaps_append legible rfl]

/-- A legible type and a plain name before the end of a declaration are read as a field. -/
theorem fieldOutline?_declaration (final : Bool) {type name gaps rest : List Char}
    (legible : isLegible type = true) (plain : isPlainText name = true)
    (gap : gaps.all isGap = true) (stopped : rest.head?.all isStop = true) :
    fieldOutline? final
        (' ' :: ' ' :: (finalKeyword final ++ type ++ ' ' :: (name ++ gaps) ++ rest)) =
      some ⟨String.ofList name, false, String.ofList type⟩ := by
  have outside : rest.head?.all (fun character => !isInside character) = true := by
    cases rest with
    | nil => rfl
    | cons first later =>
        have isStop : isStop first = true := stopped
        simp [isInside, isStop]
  have unopened : rest.head? ≠ some '(' := by
    intro opened
    rw [opened] at stopped
    cases stopped
  have closing : gaps.all (fun character => !isWordCharacter character) = true := by
    rw [List.all_eq_true] at gap ⊢
    intro character member
    rcases isGap_iff.mp (gap character member) with rfl | rfl <;> rfl
  obtain ⟨taken, left⟩ := span_append (all_isInside_declaration final legible plain gap) outside
  obtain ⟨isName, isBefore⟩ := @lastWord_append (finalKeyword final ++ type) name gaps ' '
    (by decide) plain closing
  obtain ⟨first, later, starts, word⟩ :=
    exists_cons_declaration final legible (' ' :: (name ++ gaps) ++ rest)
  rw [← List.append_assoc] at starts
  rw [starts] at taken left ⊢
  simp only [fieldOutline?, taken, left]
  rw [isName, isBefore, trimGaps_drop final legible]
  simp [word, unopened]

/-- The lines of a property show its name and its marked type. -/
theorem shows_fieldLines {property : Property} (named : IsPlain property.name)
    (legible : isLegible (dialect.type property.type).toList = true)
    (keyed : ∀ key ∈ property.key, IsPlain key)
    (initial : ∀ value ∈ property.initializer, property.type.initializer? = some value) :
    (fieldLines property).Shows (fieldOutline? property.final)
      ⟨property.name, false, nullableType property.type property.nullable⟩ where
  annotations := by
    intro line member
    rw [fieldLines] at member
    cases isKey : property.key with
    | none =>
        rw [isKey] at member
        cases member
    | some key =>
        rw [isKey] at member
        rw [List.mem_singleton.mp member]
        have keyUnbroken := (unbroken_quoted (keyed key isKey)).2.1
        constructor
        · simp [keyUnbroken]
        · simp +decide [tell, fieldOutline?]
  declaration := by
    have nameUnbroken := unbroken_of_isPlain named
    have typeUnbroken := unbroken_of_isLegible legible
    have valueUnbroken : '\n' ∉ (assigned (property.initializer.map dialect.initializer)).toList :=
      unbroken_assigned .dart typeUnbroken initial
    have declaredLegible := isLegible_nullableType legible property.nullable
    have declaredUnbroken := unbroken_of_isLegible declaredLegible
    obtain ⟨gaps, rest, ended, gap, stopped⟩ := exists_gaps
      (property.initializer.map dialect.initializer) (show ";" ∈ ["", ",", ";"] by simp)
    have text : ((fieldLines property).before ++ (fieldLines property).name ++
        (fieldLines property).after).toList = ' ' :: ' ' :: (finalKeyword property.final ++
          (nullableType property.type property.nullable).toList ++
            ' ' :: (property.name.toList ++ gaps) ++ rest) := by
      have after : (fieldLines property).after.toList = gaps ++ rest := ended
      rw [String.toList_append, after]
      cases final : property.final <;> simp [fieldLines, finalKeyword, final]
    constructor
    · simp [fieldLines, nameUnbroken, declaredUnbroken, valueUnbroken]
      split <;> decide
    · rw [text, tell_indented (fieldOutline?_declaration _ declaredLegible named gap stopped)]
      simp

theorem tells_indented (final : Bool) {line : String} (unbroken : '\n' ∉ line.toList) :
    LineTells (fieldOutline? final) ("    " ++ line) .nothing where
  unbroken := by simpa using unbroken
  told := by simp +decide [tell, fieldOutline?]

/-- A line without a word after two blanks, such as the end of a routine, declares no field. -/
theorem tells_closing (final : Bool) {line : String}
    (listed : line ∈ ["", "  \x7d", "  \x7d);", "\x7d"]) :
    LineTells (fieldOutline? final) line .nothing := by
  simp only [List.mem_cons, List.not_mem_nil, or_false] at listed
  rcases listed with rfl | rfl | rfl | rfl <;> exact ⟨by decide, rfl⟩

/-- The lines of a constructor declare no field. -/
theorem tells_constructor (final : Bool) {name : String} (plain : IsPlain name)
    {constructor : Constructor}
    (named : ∀ parameters, constructor = .named parameters →
      ∀ parameter ∈ parameters, IsPlain parameter.name) :
    ∀ line ∈ constructor.lines name, LineTells (fieldOutline? final) line .nothing := by
  have inside : name.toList.all isInside = true := all_isInside_of_isPlain plain
  have unbroken := unbroken_of_isPlain plain
  intro line member
  cases constructor with
  | implicit => cases member
  | empty =>
      simp only [Constructor.lines, List.mem_cons, List.not_mem_nil, or_false] at member
      rcases member with rfl | rfl
      · exact tells_closing final (by simp)
      · have call := tells_call final inside unbroken (show '\n' ∉ ");".toList by decide)
        rwa [String.append_assoc] at call
  | named parameters =>
      simp only [Constructor.lines, List.mem_append, List.mem_cons, List.mem_map,
        List.not_mem_nil, or_false] at member
      rcases member with ((rfl | rfl) | ⟨parameter, listed, rfl⟩) | rfl
      · exact tells_closing final (by simp)
      · have call := tells_call final inside unbroken (show '\n' ∉ "\x7b".toList by decide)
        rwa [String.append_assoc] at call
      · have parameterUnbroken := unbroken_of_isPlain (named parameters rfl parameter listed)
        simp only [Parameter.line, String.append_assoc]
        apply tells_indented
        cases parameter.required <;> simp [parameterUnbroken]
      · exact tells_closing final (by simp)

/-- The marked text of a type is written on one line when the type is. -/
theorem unbroken_nullableType {type : FieldType} (unbroken : '\n' ∉ (dialect.type type).toList)
    (nullable : Bool) : '\n' ∉ (nullableType type nullable).toList := by
  simp only [nullableType]
  split
  · simpa using unbroken
  · exact unbroken

/-- A value is read on one line when it and its type are written on one line each. -/
theorem unbroken_read {type : FieldType} {value : String}
    (unbroken : '\n' ∉ (dialect.type type).toList) (valueUnbroken : '\n' ∉ value.toList)
    (nullable : Bool) : '\n' ∉ ((read type).text nullable value).toList := by
  have cast (type : FieldType) (typeUnbroken : '\n' ∉ (dialect.type type).toList) :
      '\n' ∉ ((Read.cast type).text nullable value).toList := by
    simp [Read.text, valueUnbroken, unbroken_nullableType typeUnbroken]
  have copy (type : FieldType) (typeUnbroken : '\n' ∉ (dialect.type type).toList) :
      '\n' ∉ ((Read.copy type).text nullable value).toList := by
    cases nullable <;> simp [Read.text, unlessNull, valueUnbroken, typeUnbroken]
  cases type with
  | model name =>
      have named : '\n' ∉ name.toList := unbroken
      cases nullable <;>
        simp [read, Read.text, unlessNull, readModel, objectType, named, valueUnbroken]
  | object => exact cast .object unbroken
  | dynamic => exact valueUnbroken
  | primitive type =>
      cases type with
      | string => exact cast (.primitive .string) unbroken
      | boolean => exact cast (.primitive .boolean) unbroken
      | _ =>
          cases nullable <;>
            simp [read, conversion?, Read.text, castAndCall, Conversion.text, valueUnbroken]
  | list item =>
      cases item with
      | model name =>
          have named : '\n' ∉ name.toList := by simpa [Dialect.type, dialect] using unbroken
          cases nullable <;>
            simp [read, Read.text, castAndCall, mapItems, readModel, objectType, named,
              valueUnbroken]
      | primitive type =>
          cases type with
          | string => exact copy _ unbroken
          | boolean => exact copy _ unbroken
          | _ =>
              cases nullable <;>
                simp [read, conversion?, Read.text, castAndCall, mapItems, Conversion.text,
                  valueUnbroken]
      | _ => exact copy _ unbroken

/-- The texts of an entry are written on one line each. -/
structure Entry.Unbroken (entry : Entry) : Prop where
  name : '\n' ∉ entry.name.toList
  key : '\n' ∉ (quoted entry.key).toList
  readText : '\n' ∉ entry.readText.toList
  writeText : '\n' ∉ entry.writeText.toList

/-- The entry of a plain field has texts of one line each. -/
theorem unbroken_entry {known : NameSet} {field : Field} (plain : field.IsPlain)
    (legible : isLegible (dialect.type (field.shape.resolve known)).toList = true) :
    (entry known field).Unbroken where
  name := unbroken_of_isPlain plain.name
  key := (unbroken_quoted plain.key).2.1
  readText := by
    have keyUnbroken : '\n' ∉ (quoted (entry known field).key).toList :=
      (unbroken_quoted plain.key).2.1
    exact unbroken_read (unbroken_of_isLegible legible) (by simp [keyUnbroken]) _
  writeText := by
    have nameUnbroken : '\n' ∉ (entry known field).name.toList := unbroken_of_isPlain plain.name
    rw [Entry.writeText]
    cases (entry known field).write <;> cases (entry known field).nullable <;>
      simp [Write.text, mapItems, nameUnbroken]

/-- The header of the routine that reads a class declares no field. -/
theorem tells_fromJson (final : Bool) {name tail : String} (plain : IsPlain name)
    (unbroken : '\n' ∉ tail.toList) :
    LineTells (fieldOutline? final) (fromJsonHeader name ++ tail) .nothing := by
  have text : fromJsonHeader name ++ tail = "  " ++ ("factory " ++ name ++ ".fromJson") ++ "(" ++
      (objectType ++ " json)" ++ tail) := by
    apply String.toList_inj.mp
    simp [fromJsonHeader]
  rw [text]
  have nameUnbroken := unbroken_of_isPlain plain
  have nameInside : name.toList.all isInside = true := all_isInside_of_isPlain plain
  refine tells_call final ?_ ?_ ?_
  · rw [String.toList_append, String.toList_append, List.all_append, List.all_append, nameInside]
    decide
  · simp [nameUnbroken]
  · simp [objectType, unbroken]

/-- The header of the routine that writes a class declares no field. -/
theorem tells_toJson (final : Bool) {tail : String} (unbroken : '\n' ∉ tail.toList) :
    LineTells (fieldOutline? final) (toJsonHeader ++ tail) .nothing := by
  have text : toJsonHeader ++ tail = "  " ++ (objectType ++ " toJson") ++ "(" ++ (")" ++ tail) := by
    apply String.toList_inj.mp
    simp [toJsonHeader]
  rw [text]
  exact tells_call final (by decide) (by decide) (by simpa using unbroken)

/-- The end of a statement breaks no line. -/
theorem unbroken_endStatement {lines : List String}
    (unbroken : ∀ line ∈ lines, '\n' ∉ line.toList) :
    ∀ line ∈ endStatement lines, '\n' ∉ line.toList := by
  induction lines with
  | nil => exact unbroken
  | cons first rest inductionHypothesis =>
      rw [List.forall_mem_cons] at unbroken
      cases rest with
      | nil => simpa [endStatement] using unbroken.1
      | cons next later =>
          exact List.forall_mem_cons.mpr ⟨unbroken.1, inductionHypothesis unbroken.2⟩

/-- The lines that read a class are not broken. -/
theorem unbroken_readLines {name : String} (plain : IsPlain name) (constructor : Constructor)
    {entries : List Entry} (unbroken : ∀ entry ∈ entries, entry.Unbroken) :
    ∀ line ∈ readLines name constructor entries, '\n' ∉ line.toList := by
  have nameUnbroken := unbroken_of_isPlain plain
  have assignments : ∀ line ∈ readLines name .implicit entries, '\n' ∉ line.toList := by
    refine unbroken_endStatement (List.forall_mem_cons.mpr ⟨by simp [nameUnbroken], ?_⟩)
    intro line member
    obtain ⟨entry, listed, rfl⟩ := List.mem_map.mp member
    simp [(unbroken entry listed).name, (unbroken entry listed).readText]
  cases constructor with
  | named parameters =>
      intro line member
      simp only [readLines, List.mem_append, List.mem_singleton, List.mem_map] at member
      rcases member with (rfl | ⟨entry, listed, rfl⟩) | rfl
      · simp [nameUnbroken]
      · simp [(unbroken entry listed).name, (unbroken entry listed).readText]
      · decide
  | _ => exact assignments

/-- The lines of routines declare no field. -/
theorem tells_routines (final : Bool) {name : String} (plain : IsPlain name)
    (constructor : Constructor) {routines : Routines}
    (written : ∀ entries, routines = .written entries → ∀ entry ∈ entries, entry.Unbroken) :
    ∀ line ∈ routines.lines name constructor, LineTells (fieldOutline? final) line .nothing := by
  have nameUnbroken := unbroken_of_isPlain plain
  intro line member
  cases routines with
  | absent => cases member
  | generated =>
      simp only [Routines.lines, List.mem_cons, List.not_mem_nil, or_false,
        String.append_assoc] at member
      rcases member with rfl | rfl | rfl | rfl
      · exact tells_closing final (by simp)
      · exact tells_fromJson final plain (by simp [nameUnbroken])
      · exact tells_closing final (by simp)
      · exact tells_toJson final (by simp [nameUnbroken])
  | written entries =>
      have entriesUnbroken := written entries rfl
      simp only [Routines.lines, List.mem_append, List.mem_cons, List.mem_map, List.not_mem_nil,
        or_false] at member
      rcases member with
        ((((rfl | rfl) | ⟨body, listed, rfl⟩) | rfl | rfl | rfl | rfl) | ⟨entry, listed, rfl⟩) |
          rfl | rfl
      · exact tells_closing final (by simp)
      · exact tells_fromJson final plain (by decide)
      · have bodyUnbroken := unbroken_readLines plain constructor entriesUnbroken body listed
        exact tells_indented final bodyUnbroken
      · exact tells_closing final (by simp)
      · exact tells_closing final (by simp)
      · exact tells_toJson final (by decide)
      · exact ⟨by decide, rfl⟩
      · obtain ⟨_, keyUnbroken, _, writeUnbroken⟩ := entriesUnbroken entry listed
        constructor
        · simp [keyUnbroken, writeUnbroken]
        · simp +decide [tell, fieldOutline?]
      · exact ⟨by decide, rfl⟩
      · exact tells_closing final (by simp)

/-- The class of a plain model shows its outline. -/
theorem shows_declare (settings : Settings) {known : NameSet}
    (names : ∀ name ∈ known, IsPlain name) {model : Model} (plain : model.IsPlain) :
    (classLines (declare settings known model)).Shows (fieldOutline? settings.constructors)
      (model.outline .dart known) where
  annotations := by
    simp only [classLines]
    split
    · exact List.forall_mem_singleton.mpr ⟨by decide, rfl⟩
    · exact fun _ missing => absurd missing List.not_mem_nil
  opening := by
    have keyword : "class " = "class" ++ " " := rfl
    simp only [classLines, declare, keyword]
    exact tells_opening (by decide) (by decide) plain.name (by decide) (by decide)
  fields := by
    rw [classLines, declare, List.map_map, Model.outline, List.forall₂_map_left_iff,
      List.forall₂_map_right_iff, List.forall₂_same]
    intro field member
    have legible := (Language.legible_dialect .dart).type names field.shape
    have shown := @shows_fieldLines (property settings known field)
      (plain.fields field member).name legible
    refine shown ?_ ?_
    · intro key isKey
      simp only [property, Option.mem_def] at isKey
      split at isKey
      · cases isKey
        exact (plain.fields field member).key
      · cases isKey
    · intro value assigned
      simp only [property, initializer?, Option.mem_def, Option.ite_none_left_eq_some] at assigned
      exact assigned.2.2
  below := by
    have constructed : ∀ parameters, constructor settings model = .named parameters →
        ∀ parameter ∈ parameters, IsPlain parameter.name := by
      intro parameters isNamed parameter listed
      simp only [constructor] at isNamed
      split at isNamed
      · cases isNamed
        obtain ⟨field, member, rfl⟩ := List.mem_map.mp listed
        exact (plain.fields field member).name
      · split at isNamed <;> cases isNamed
    have written : ∀ entries, routines settings known model = .written entries →
        ∀ entry ∈ entries, entry.Unbroken := by
      intro entries isWritten entry listed
      simp only [routines] at isWritten
      split at isWritten
      · cases isWritten
      · split at isWritten
        · cases isWritten
          obtain ⟨field, member, rfl⟩ := List.mem_map.mp listed
          exact unbroken_entry (plain.fields field member)
            ((Language.legible_dialect .dart).type names field.shape)
        · cases isWritten
    intro line member
    simp only [classLines, declare, List.mem_append, List.mem_singleton] at member
    rcases member with (inConstructor | inRoutines) | rfl
    · exact tells_constructor _ plain.name constructed line inConstructor
    · exact tells_routines _ plain.name _ written line inRoutines
    · exact tells_closing _ (by simp)

/-- The directives of a file with a plain name tell nothing. -/
theorem tells_directives (final : Bool) {file : File}
    (plain : ∀ name ∈ file.part, '\n' ∉ name.toList) :
    ∀ part ∈ file.directives, LineTells (fieldOutline? final) part .nothing := by
  intro part listed
  rw [File.directives] at listed
  split at listed
  · cases listed
  next name isPart =>
    rcases List.mem_cons.mp listed with rfl | isName
    · exact ⟨by decide, rfl⟩
    · rw [List.mem_singleton.mp isName]
      constructor
      · simp [plain name isPart]
      · simp +decide [tell, fieldOutline?]

end Dart

end Exemplar
