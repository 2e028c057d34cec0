import Exemplar.Emission.Dart
import Mathlib.Data.List.Basic

namespace Exemplar.Dart

/-- A nullable value is tested before the pieces of its expression are written. -/
def testedPieces (nullable : Bool) (first last : String) : List String :=
  if nullable then ["", " == null ? null : " ++ first, last] else [first, last]

/-- A nullable value is cast to a nullable type before a method is called. -/
def calledPieces (nullable : Bool) (type call : String) : List String :=
  if nullable then ["(", " as " ++ type ++ "?)?." ++ call]
  else ["(", " as " ++ type ++ ")." ++ call]

/-- These are the pieces of the expression that reads a value. The value stands between any two of
them. -/
def Read.pieces (nullable : Bool) : Read → List String
  | .model name => testedPieces nullable (name ++ ".fromJson(") (" as " ++ objectType ++ ")")
  | .models name => calledPieces nullable "List<dynamic>" (mapItems (readModel name "e"))
  | .number conversion => calledPieces nullable "num" conversion.text
  | .numbers conversion =>
      calledPieces nullable "List<dynamic>" (mapItems ("(e as num)." ++ conversion.text))
  | .cast type => ["", " as " ++ nullableType type nullable]
  | .copy type => testedPieces nullable (dialect.type type ++ ".from(") " as List<dynamic>)"
  | .asIs => ["", ""]

theorem Read.text_eq (read : Read) (nullable : Bool) (value : String) :
    read.text nullable value = value.intercalate (read.pieces nullable) := by
  cases read <;> cases nullable <;>
    simp [Read.text, Read.pieces, testedPieces, calledPieces, unlessNull, castAndCall, readModel,
      String.append_assoc]

theorem Read.two_le_length_pieces (read : Read) (nullable : Bool) :
    2 ≤ (read.pieces nullable).length := by
  cases read <;> cases nullable <;> simp [Read.pieces, testedPieces, calledPieces]

/-- A piece of an expression accesses nothing when it has an opening bracket at most in the name of
a type, or in that of the items of a list type. -/
def AccessesNothing (type piece : String) : Prop :=
  ∃ before named after, piece = before ++ named ++ after ∧
    '[' ∉ before.toList ∧ '[' ∉ after.toList ∧
    (named = "" ∨ named = type ∨ type = "List<" ++ named ++ ">")

section Accesses

variable {type piece : String}

theorem accessesNothing_plain (plain : '[' ∉ piece.toList) : AccessesNothing type piece :=
  ⟨piece, "", "", by simp, plain, by simp, .inl rfl⟩

/-- A piece still accesses nothing when a text without brackets is put before it. -/
theorem AccessesNothing.prepend {text : String} (plain : '[' ∉ text.toList)
    (nothing : AccessesNothing type piece) : AccessesNothing type (text ++ piece) := by
  obtain ⟨before, named, after, rfl, plainBefore, plainAfter, isType⟩ := nothing
  refine ⟨text ++ before, named, after, by simp only [String.append_assoc], ?_, plainAfter, isType⟩
  simp [plain, plainBefore]

/-- A test for null accesses nothing more than what is tested. -/
theorem accessesNothing_tested {nullable : Bool} {first last : String}
    (firstNothing : AccessesNothing type first) (lastNothing : AccessesNothing type last)
    (member : piece ∈ testedPieces nullable first last) : AccessesNothing type piece := by
  cases nullable with
  | false =>
      rcases List.mem_pair.mp member with rfl | rfl
      · exact firstNothing
      · exact lastNothing
  | true =>
      rcases List.mem_cons.mp member with rfl | later
      · exact accessesNothing_plain (by decide)
      rcases List.mem_pair.mp later with rfl | rfl
      · exact firstNothing.prepend (by decide)
      · exact lastNothing

/-- A call after a cast accesses nothing more than the call. -/
theorem accessesNothing_called {nullable : Bool} {castType call : String}
    (plain : '[' ∉ castType.toList) (callNothing : AccessesNothing type call)
    (member : piece ∈ calledPieces nullable castType call) : AccessesNothing type piece := by
  cases nullable with
  | false =>
      rcases List.mem_pair.mp member with rfl | rfl
      · exact accessesNothing_plain (by decide)
      · exact callNothing.prepend (by simp [plain])
  | true =>
      rcases List.mem_pair.mp member with rfl | rfl
      · exact accessesNothing_plain (by decide)
      · exact callNothing.prepend (by simp [plain])

end Accesses

theorem accessesNothing_copy {type : FieldType} {nullable : Bool} {piece : String}
    (member : piece ∈ (Read.copy type).pieces nullable) :
    AccessesNothing (dialect.type type) piece :=
  accessesNothing_tested
    ⟨"", dialect.type type, ".from(", by simp, by decide, by decide, .inr (.inl rfl)⟩
    (accessesNothing_plain (by decide)) member

theorem accessesNothing_cast {castType : FieldType} {type : String} {nullable : Bool}
    {piece : String} (plain : '[' ∉ (nullableType castType nullable).toList)
    (member : piece ∈ (Read.cast castType).pieces nullable) : AccessesNothing type piece := by
  rcases List.mem_pair.mp member with rfl | rfl
  · exact accessesNothing_plain (by decide)
  · exact accessesNothing_plain (by simp [plain])

/-- The pieces of a read access nothing, so all accesses stand between them. -/
theorem accessesNothing_pieces {type : FieldType} {nullable : Bool} {piece : String}
    (member : piece ∈ (read type).pieces nullable) :
    AccessesNothing (dialect.type type) piece := by
  cases type with
  | dynamic =>
      rcases List.mem_pair.mp member with rfl | rfl <;> exact accessesNothing_plain (by decide)
  | object => exact accessesNothing_cast (by cases nullable <;> decide) member
  | model name =>
      exact accessesNothing_tested
        ⟨"", name, ".fromJson(", by simp, by decide, by decide, .inr (.inl rfl)⟩
        (accessesNothing_plain (by decide)) member
  | primitive type =>
      cases type with
      | string => exact accessesNothing_cast (by cases nullable <;> decide) member
      | boolean => exact accessesNothing_cast (by cases nullable <;> decide) member
      | integer =>
          exact accessesNothing_called (by decide) (accessesNothing_plain (by decide)) member
      | float =>
          exact accessesNothing_called (by decide) (accessesNothing_plain (by decide)) member
  | list item =>
      cases item with
      | model name =>
          exact accessesNothing_called (by decide)
            ⟨"map((e) => ", name, ".fromJson(e as Map<String, dynamic>)).toList()",
              by simp [mapItems, readModel, objectType, ← String.toList_inj], by decide, by decide,
              .inr (.inr rfl)⟩ member
      | primitive type =>
          cases type with
          | string => exact accessesNothing_copy member
          | boolean => exact accessesNothing_copy member
          | integer =>
              exact accessesNothing_called (by decide) (accessesNothing_plain (by decide)) member
          | float =>
              exact accessesNothing_called (by decide) (accessesNothing_plain (by decide)) member
      | dynamic => exact accessesNothing_copy member
      | object => exact accessesNothing_copy member
      | list item => exact accessesNothing_copy member

/-- An expression reads a value through the factory of a model. -/
def ReadsModel (model : String) (pieces : List String) : Prop :=
  pieces = [model ++ ".fromJson(", " as Map<String, dynamic>)"] ∨
    pieces = ["", " == null ? null : " ++ model ++ ".fromJson(", " as Map<String, dynamic>)"]

/-- An expression reads the items of a value through the factory of a model. -/
def ReadsItems (model : String) (pieces : List String) : Prop :=
  pieces = ["(", " as List<dynamic>).map((e) => " ++ model ++
    ".fromJson(e as Map<String, dynamic>)).toList()"] ∨
  pieces = ["(", " as List<dynamic>?)?.map((e) => " ++ model ++
    ".fromJson(e as Map<String, dynamic>)).toList()"]

/-- An expression writes a field through the routine of its model. -/
def WritesModel (name text : String) : Prop :=
  text = name ++ ".toJson()" ∨ text = name ++ "?.toJson()"

/-- An expression writes the items of a field through the routine of their model. -/
def WritesItems (name text : String) : Prop :=
  text = name ++ ".map((e) => e.toJson()).toList()" ∨
    text = name ++ "?.map((e) => e.toJson()).toList()"

/-- An expression tolerates null when it tests for null, calls a method after a cast to a nullable
type, or casts to one. -/
def NullTolerant (pieces : List String) : Prop :=
  (∃ read rest, pieces = "" :: (" == null ? null : " ++ read) :: rest) ∨
    (∃ type call, ')' ∉ type.toList ∧ pieces = ["(", " as " ++ type ++ "?)?." ++ call]) ∨
      ∃ type, pieces = ["", " as " ++ type ++ "?"]

section Reads

variable {model other : String} {pieces : List String}

/-- A read through a model ends with a cast to an object. -/
theorem ReadsModel.getLast? (reads : ReadsModel model pieces) :
    pieces.getLast? = some " as Map<String, dynamic>)" := by
  rcases reads with rfl | rfl <;> rfl

/-- A read of items through a model ends with a long call. -/
theorem ReadsItems.getLast? (reads : ReadsItems model pieces) :
    ∃ last, pieces.getLast? = some last ∧ 70 < last.toList.length := by
  rcases reads with rfl | rfl
  · exact ⟨_, rfl, by simp⟩
  · exact ⟨_, rfl, by simp⟩

/-- A value is read through at most one model. -/
theorem ReadsModel.unique (reads : ReadsModel model pieces) (readsOther : ReadsModel other pieces) :
    model = other := by
  rcases reads with rfl | rfl
  · rcases readsOther with same | same
    · simpa using same
    · simp at same
  · rcases readsOther with same | same
    · simp at same
    · simpa using same

/-- Items are read through at most one model. -/
theorem ReadsItems.unique (reads : ReadsItems model pieces) (readsOther : ReadsItems other pieces) :
    model = other := by
  have marked (first second : String) :
      " as List<dynamic>).map((e) => " ++ first ≠ " as List<dynamic>?)?.map((e) => " ++ second := by
    intro same
    have mark := congrArg (fun text => text.toList[17]?) same
    simp at mark
  rcases reads with rfl | rfl
  · rcases readsOther with same | same
    · simpa using same
    · simp [String.append_assoc, marked] at same
  · rcases readsOther with same | same
    · simp [String.append_assoc, (marked _ _).symm] at same
    · simpa using same

/-- A value is not read both as a model and by its items. -/
theorem ReadsModel.not_readsItems (reads : ReadsModel model pieces) :
    ¬ ReadsItems other pieces := by
  intro readsItems
  obtain ⟨last, isLast, long⟩ := readsItems.getLast?
  rw [reads.getLast?] at isLast
  obtain rfl := Option.some.inj isLast
  exact absurd long (by decide)

end Reads

/-- A field that holds no models is read by an expression that ends in another way. -/
theorem getLast?_pieces_plain {type : FieldType} (plain : type.heldModel? = none)
    (nullable : Bool) :
    ∃ last, ((read type).pieces nullable).getLast? = some last ∧
      last ≠ " as Map<String, dynamic>)" ∧ last.toList.length ≤ 70 := by
  cases type with
  | model => cases plain
  | primitive type => cases type <;> cases nullable <;> exact ⟨_, rfl, by decide, by decide⟩
  | dynamic => exact ⟨_, rfl, by decide, by decide⟩
  | object => cases nullable <;> exact ⟨_, rfl, by decide, by decide⟩
  | list item =>
      cases item with
      | model => cases plain
      | primitive type => cases type <;> cases nullable <;> exact ⟨_, rfl, by decide, by decide⟩
      | dynamic => cases nullable <;> exact ⟨_, rfl, by decide, by decide⟩
      | object => cases nullable <;> exact ⟨_, rfl, by decide, by decide⟩
      | list item => cases nullable <;> exact ⟨" as List<dynamic>)", rfl, by decide, by decide⟩

theorem readsModel_model (model : String) (nullable : Bool) :
    ReadsModel model ((read (.model model)).pieces nullable) := by
  cases nullable
  · exact .inl rfl
  · exact .inr rfl

/-- A list of models is read item by item through their factory. -/
theorem readsItems_list (model : String) (nullable : Bool) :
    ReadsItems model ((read (.list (.model model))).pieces nullable) := by
  have mapped : mapItems (readModel model "e") =
      "map((e) => " ++ model ++ ".fromJson(e as Map<String, dynamic>)).toList()" := by
    apply String.toList_inj.mp
    simp [mapItems, readModel, objectType]
  cases nullable
  · exact .inl (by simp [read, Read.pieces, calledPieces, mapped, ← String.append_assoc])
  · exact .inr (by simp [read, Read.pieces, calledPieces, mapped, ← String.append_assoc])

/-- A type holds no models, or it is a model or a list of one. -/
theorem heldModel?_cases (type : FieldType) :
    type.heldModel? = none ∨ (∃ model, type = .model model) ∨
      ∃ model, type = .list (.model model) := by
  cases type with
  | model name => exact .inr (.inl ⟨name, rfl⟩)
  | list item =>
      cases item with
      | model name => exact .inr (.inr ⟨name, rfl⟩)
      | _ => exact .inl rfl
  | _ => exact .inl rfl

/-- Exactly a field of a model type is read through a factory. -/
theorem readsModel_iff {type : FieldType} {nullable : Bool} {model : String} :
    ReadsModel model ((read type).pieces nullable) ↔ type = .model model := by
  constructor
  · intro reads
    rcases heldModel?_cases type with plain | ⟨name, rfl⟩ | ⟨name, rfl⟩
    · obtain ⟨last, isLast, noCast, _⟩ := getLast?_pieces_plain plain nullable
      rw [reads.getLast?] at isLast
      exact absurd (Option.some.inj isLast).symm noCast
    · rw [reads.unique (readsModel_model name nullable)]
    · exact absurd (readsItems_list name nullable) reads.not_readsItems
  · rintro rfl
    exact readsModel_model model nullable

/-- Exactly a list of a model type is read item by item through a factory. -/
theorem readsItems_iff {type : FieldType} {nullable : Bool} {model : String} :
    ReadsItems model ((read type).pieces nullable) ↔ type = .list (.model model) := by
  constructor
  · intro reads
    rcases heldModel?_cases type with plain | ⟨name, rfl⟩ | ⟨name, rfl⟩
    · obtain ⟨last, isLast, _, short⟩ := getLast?_pieces_plain plain nullable
      obtain ⟨long, isLong, length⟩ := reads.getLast?
      rw [isLong] at isLast
      obtain rfl := Option.some.inj isLast
      exact absurd short (Nat.not_le.mpr length)
    · exact absurd reads (readsModel_model name nullable).not_readsItems
    · rw [reads.unique (readsItems_list name nullable)]
  · rintro rfl
    exact readsItems_list model nullable

/-- A field that holds no models is written as it is. -/
theorem write_plain {type : FieldType} (plain : type.heldModel? = none) : write type = .asIs := by
  cases type with
  | model => cases plain
  | list item =>
      cases item with
      | model => cases plain
      | _ => rfl
  | _ => rfl

/-- A text is not followed by a call and the same. -/
theorem ne_append {call : String} (called : call ≠ "") (text : String) : text ≠ text ++ call := by
  intro same
  have length := congrArg (fun text => text.toList.length) same
  simp at length
  exact called length

/-- A field that holds no models is not written through a routine. -/
theorem not_writes_plain {type : FieldType} (plain : type.heldModel? = none) (nullable : Bool)
    (name : String) : ¬ WritesModel name ((write type).text nullable name) ∧
      ¬ WritesItems name ((write type).text nullable name) := by
  rw [write_plain plain]
  constructor
  · rintro (same | same) <;> exact absurd same (ne_append (by decide) name)
  · rintro (same | same) <;> exact absurd same (ne_append (by decide) name)

/-- Exactly a field of a model type is written through a routine. -/
theorem writesModel_iff {type : FieldType} {nullable : Bool} {name : String} :
    WritesModel name ((write type).text nullable name) ↔ ∃ model, type = .model model := by
  rcases heldModel?_cases type with plain | ⟨model, rfl⟩ | ⟨model, rfl⟩
  · refine iff_of_false (not_writes_plain plain nullable name).1 ?_
    rintro ⟨model, rfl⟩
    cases plain
  · cases nullable <;> simp [write, Write.text, WritesModel, String.append_assoc]
  · cases nullable <;> simp [write, Write.text, WritesModel, mapItems, String.append_assoc]

/-- Exactly a list of a model type is written item by item through a routine. -/
theorem writesItems_iff {type : FieldType} {nullable : Bool} {name : String} :
    WritesItems name ((write type).text nullable name) ↔ ∃ model, type = .list (.model model) := by
  rcases heldModel?_cases type with plain | ⟨model, rfl⟩ | ⟨model, rfl⟩
  · refine iff_of_false (not_writes_plain plain nullable name).2 ?_
    rintro ⟨model, rfl⟩
    cases plain
  · cases nullable <;> simp [write, Write.text, WritesItems, String.append_assoc]
  · cases nullable <;> simp [write, Write.text, WritesItems, mapItems, String.append_assoc]

/-- A routine is called behind a question mark exactly when its field is nullable. -/
theorem guarded_write_iff {type : FieldType} (holds : type.heldModel? ≠ none) {nullable : Bool}
    {name : String} :
    (∃ call, (write type).text nullable name = name ++ "?." ++ call) ↔ nullable = true := by
  have unguarded (call guardedCall : String) :
      name ++ "." ++ call ≠ name ++ "?." ++ guardedCall := by
    intro same
    simp [String.append_assoc, ← String.toList_inj] at same
  rcases heldModel?_cases type with plain | ⟨model, rfl⟩ | ⟨model, rfl⟩
  · exact absurd plain holds
  · cases nullable with
    | true => exact iff_of_true ⟨_, rfl⟩ rfl
    | false => exact iff_of_false (fun ⟨_, same⟩ => unguarded _ _ same) Bool.false_ne_true
  · cases nullable with
    | true => exact iff_of_true ⟨_, rfl⟩ rfl
    | false => exact iff_of_false (fun ⟨_, same⟩ => unguarded _ _ same) Bool.false_ne_true

section NullTolerance

variable {type call : String}

/-- A long first piece is neither a test for null nor a cast. -/
theorem not_nullTolerant_of_long {first : String} (long : 1 < first.toList.length)
    (rest : List String) : ¬ NullTolerant (first :: rest) := by
  rintro (⟨read, later, same⟩ | ⟨type, call, _, same⟩ | ⟨type, same⟩)
  · obtain ⟨rfl, _⟩ := List.cons.inj same
    exact absurd long (by decide)
  · obtain ⟨rfl, _⟩ := List.cons.inj same
    exact absurd long (by decide)
  · obtain ⟨rfl, _⟩ := List.cons.inj same
    exact absurd long (by decide)

/-- A call after a cast to a type without a mark does not tolerate null. -/
theorem not_nullTolerant_call (simple : ')' ∉ type.toList)
    (unmarked : type.toList.getLast? ≠ some '?') :
    ¬ NullTolerant ["(", " as " ++ type ++ ")." ++ call] := by
  rintro (⟨read, later, same⟩ | ⟨nullableType, nullableCall, nullableSimple, same⟩ |
    ⟨nullableType, same⟩)
  · simp at same
  · -- Both types end before the first closing parenthesis.
    have lists : type.toList ++ ')' :: '.' :: call.toList =
        nullableType.toList ++ '?' :: ')' :: '?' :: '.' :: nullableCall.toList := by
      simpa [← String.toList_inj] using same
    have taken := congrArg (List.takeWhile (· ≠ ')')) lists
    have stillOpen {text : List Char} (simple : ')' ∉ text) :
        ∀ character ∈ text, decide (character ≠ ')') = true := by
      intro character member
      exact decide_eq_true fun closing => simple (closing ▸ member)
    rw [List.takeWhile_append_of_pos (stillOpen simple),
      List.takeWhile_append_of_pos (stillOpen nullableSimple)] at taken
    have ends : type.toList = nullableType.toList ++ ['?'] := by simpa using taken
    simp [ends] at unmarked
  · simp at same

/-- A cast to a type without a mark does not tolerate null. -/
theorem not_nullTolerant_cast (unmarked : type.toList.getLast? ≠ some '?') :
    ¬ NullTolerant ["", " as " ++ type] := by
  rintro (⟨read, later, same⟩ | ⟨nullableType, nullableCall, _, same⟩ | ⟨nullableType, same⟩)
  · have second := congrArg (fun pieces => pieces.map fun piece => piece.toList[1]?) same
    simp at second
  · simp at same
  · simp [String.append_assoc] at same
    subst same
    simp at unmarked

end NullTolerance

/-- Only a dynamic field is read as it is. -/
theorem read_ne_asIs {type : FieldType} (typed : type ≠ .dynamic) : read type ≠ .asIs := by
  unfold read
  split
  · simp
  · simp
  · exact absurd rfl typed
  · split <;> simp
  · simp
  · split <;> simp
  · simp

/-- Only texts, truth values and objects are cast when they are read. -/
theorem cast_of_read {type castType : FieldType} (isCast : read type = .cast castType) :
    castType = .primitive .string ∨ castType = .primitive .boolean ∨ castType = .object := by
  cases type with
  | object => exact .inr (.inr (Read.cast.inj isCast).symm)
  | primitive type =>
      cases type with
      | string => exact .inl (Read.cast.inj isCast).symm
      | boolean => exact .inr (.inl (Read.cast.inj isCast).symm)
      | integer => cases isCast
      | float => cases isCast
  | list item =>
      cases item with
      | primitive type => cases type <;> cases isCast
      | _ => cases isCast
  | model => cases isCast
  | dynamic => cases isCast

/-- A value is read by an expression that tolerates null exactly when it is nullable, unless it is
read as it is. -/
theorem nullTolerant_pieces_iff {read : Read} (notAsIs : read ≠ .asIs)
    (castType : ∀ type, read = .cast type →
      type = .primitive .string ∨ type = .primitive .boolean ∨ type = .object) (nullable : Bool) :
    NullTolerant (read.pieces nullable) ↔ nullable = true := by
  cases nullable with
  | true =>
      refine iff_of_true ?_ rfl
      cases read with
      | asIs => exact absurd rfl notAsIs
      | model name => exact .inl ⟨_, _, rfl⟩
      | copy type => exact .inl ⟨_, _, rfl⟩
      | models name => exact .inr (.inl ⟨"List<dynamic>", _, by decide, rfl⟩)
      | number conversion => exact .inr (.inl ⟨"num", _, by decide, rfl⟩)
      | numbers conversion => exact .inr (.inl ⟨"List<dynamic>", _, by decide, rfl⟩)
      | cast type =>
          obtain rfl | rfl | rfl := castType type rfl <;> exact .inr (.inr ⟨_, rfl⟩)
  | false =>
      refine iff_of_false ?_ Bool.false_ne_true
      cases read with
      | asIs => exact absurd rfl notAsIs
      | model name => exact not_nullTolerant_of_long (by simp) _
      | copy type => exact not_nullTolerant_of_long (by simp) _
      | models name => exact not_nullTolerant_call (by decide) (by decide)
      | number conversion => exact not_nullTolerant_call (by decide) (by decide)
      | numbers conversion => exact not_nullTolerant_call (by decide) (by decide)
      | cast type =>
          obtain rfl | rfl | rfl := castType type rfl <;> exact not_nullTolerant_cast (by decide)

end Exemplar.Dart
