import Exemplar.Proofs.FieldDeclarations
import Exemplar.Proofs.ListLevels

namespace Exemplar

namespace Language

/-- A written type admits null when it is the type of any value at all or carries a question mark.
In Kotlin the type of any value takes a question mark as well. -/
def TypeAdmitsNull (language : Language) (type : String) : Prop :=
  match language with
  | .typeScript => type = "any"
  | .dart => type = "dynamic" ∨ ∃ unmarked, type = unmarked ++ "?"
  | .kotlin => ∃ unmarked, type = unmarked ++ "?"

/-- This function returns the type of a field as it is written. In TypeScript the mark follows the
name of the field. -/
def writtenType (language : Language) (declaration : FieldDeclaration) : String :=
  if language = .typeScript then declaration.type else declaration.type ++ declaration.mark

/-- A declaration admits null below levels of lists when the type that is written there does, or
when the whole field is optional. -/
def AdmitsNull (language : Language) (declaration : FieldDeclaration) (levels : Nat) : Prop :=
  (∃ inner, language.TypeBelow levels (language.writtenType declaration) inner ∧
      language.TypeAdmitsNull inner) ∨
    language = .typeScript ∧ levels = 0 ∧ declaration.marked = true

/-- A language admits the nulls of a document when each field of the root admits null below as many
levels of lists as its member shows it. -/
def AdmitsNulls (language : Language) (settings : Settings) (set : ModelSet)
    (members : List (String × Json)) : Prop :=
  List.Forall₂
    (fun member field => ∀ levels, member.2.below? levels = some .null →
      language.AdmitsNull (language.declaration settings set.names field) levels)
    members set.root.fields

/-- A language tracks the nulls of a document when the last class declares the fields of the root,
each field admits an observed null unless it stands below a list in Kotlin, and all nulls are
admitted unless Kotlin meets one there. -/
structure TracksNulls (language : Language) (settings : Settings) (set : ModelSet)
    (members : List (String × Json)) : Prop where
  written : (language.emit settings set).code =
    fileText (language.header settings set) (language.classLines settings set)
  root : ∃ earlier rootLines, language.classLines settings set = earlier ++ [rootLines] ∧
    List.Forall₂
      (fun field lines => language.Declares (language.declaration settings set.names field) lines)
      set.root.fields rootLines.fields
  each : List.Forall₂
    (fun member field => field.key = member.1 ∧
      ∀ levels, member.2.below? levels = some .null →
        (language.AdmitsNull (language.declaration settings set.names field) levels ↔
          (language = .kotlin → levels = 0)))
    members set.root.fields
  all : language.AdmitsNulls settings set members ↔
    (language = .kotlin →
      ∀ member ∈ members, ∀ levels, member.2.below? (levels + 1) ≠ some .null)

theorem mark_mem (declaration : FieldDeclaration) : declaration.mark ∈ ["", "?"] := by
  unfold FieldDeclaration.mark
  split <;> decide

variable {language : Language} {settings : Settings} {known : NameSet} {nullSafety : Bool}
  {member : String × Json} {levels : Nat}

/-- Only in Dart the field of a member that is null is not marked. -/
theorem mark_of_null (null : member.2 = .null) :
    (language.declaration settings known (.ofMember nullSafety member)).mark =
      if language = .dart then "" else "?" := by
  have unknown : (Field.ofMember nullSafety member).shape.resolve known = .dynamic := by
    rw [Field.ofMember, null]
    rfl
  have nullable : (Field.ofMember nullSafety member).nullable = true := by
    simp [Field.ofMember, null]
  cases language <;>
    simp [FieldDeclaration.mark, declaration, unknown, nullable, Dialect.type, dialect]

/-- Where a member shows null, the written type is that of any value. It carries the mark of the
field only if there are no lists around it. -/
theorem typeBelow_null_iff (shown : member.2.below? levels = some .null) {inner : String} :
    language.TypeBelow levels
        (language.writtenType
          (language.declaration settings known (.ofMember nullSafety member))) inner ↔
      inner = language.dialect.dynamic ++
        if levels = 0 ∧ language = .kotlin then "?" else "" := by
  have type : (language.declaration settings known (.ofMember nullSafety member)).type =
      language.dialect.type (.listed levels .dynamic) :=
    congrArg language.dialect.type (Shape.resolve_infer_of_below shown)
  rw [writtenType, type]
  split
  next isTypeScript =>
    rw [typeBelow_type_iff]
    simp [isTypeScript, Dialect.type]
  next notTypeScript =>
    rw [typeBelow_listed_iff (mark_mem _)]
    by_cases top : levels = 0
    · subst top
      rw [mark_of_null (Option.some.inj shown)]
      cases language with
      | typeScript => exact absurd rfl notTypeScript
      | dart => simp [Dialect.type]
      | kotlin => simp [Dialect.type]
    · simp [top, Dialect.type]

/-- The field of a member admits an observed null unless it stands below a list in Kotlin. -/
theorem admitsNull_iff (shown : member.2.below? levels = some .null) :
    language.AdmitsNull (language.declaration settings known (.ofMember nullSafety member)) levels ↔
      (language = .kotlin → levels = 0) := by
  unfold AdmitsNull
  simp only [typeBelow_null_iff shown, exists_eq_left]
  cases language with
  | typeScript => simp [TypeAdmitsNull, dialect, TypeScript.dialect]
  | dart => simp [TypeAdmitsNull, dialect, Dart.dialect]
  | kotlin =>
      simp only [reduceCtorEq, false_and, or_false, true_implies, and_true]
      constructor
      · rintro ⟨unmarked, marked⟩
        by_contra below
        have last := congrArg (fun text => text.toList.getLast?) marked
        simp [below, dialect, Kotlin.dialect] at last
      · intro top
        exact ⟨"Any", by simp [top, dialect, Kotlin.dialect]⟩

/-- All observed nulls of a document are admitted unless Kotlin meets one below a list. -/
theorem forall₂_admitsNull_iff {members : List (String × Json)} :
    List.Forall₂
        (fun member field => ∀ levels, Json.below? levels member.2 = some .null →
          language.AdmitsNull (language.declaration settings known field) levels)
        members (members.map (Field.ofMember nullSafety)) ↔
      (language = .kotlin →
        ∀ member ∈ members, ∀ levels, member.2.below? (levels + 1) ≠ some .null) := by
  rw [List.forall₂_map_right_iff, List.forall₂_same]
  constructor
  · intro admits isKotlin member present levels shown
    exact levels.succ_ne_zero
      ((admitsNull_iff shown).mp (admits member present (levels + 1) shown) isKotlin)
  · intro unlisted member present levels shown
    refine (admitsNull_iff shown).mpr fun isKotlin => ?_
    cases levels with
    | zero => rfl
    | succ levels => exact absurd shown (unlisted isKotlin member present levels)

end Language

namespace Extraction

/-- The file of a document tracks its observed nulls. -/
theorem nulls_tracked {document : Json} {members : List (String × Json)}
    (root : document.heldObject? = some members) (nullSafety : Bool) (given : String)
    (language : Language) (settings : Settings) :
    ∃ extraction, ofDocument nullSafety given document = .ok extraction ∧
      language.TracksNulls settings extraction.models members := by
  refine ⟨_, ofDocument_eq_ok_iff.mpr ⟨members, root, rfl⟩, ?_⟩
  obtain ⟨models, extracted⟩ :
      ∃ models, (ofMembers nullSafety (rootName given) members).models = models := ⟨_, rfl⟩
  have rootFields : models.root.fields = members.map (Field.ofMember nullSafety) := by
    rw [← extracted, root_ofMembers]
    rfl
  rw [extracted]
  refine ⟨language.code_emit settings models, ?_, ?_, ?_⟩
  · refine ⟨models.nested.map (language.modelLines settings models.names),
      language.modelLines settings models.names models.root, ?_, ?_⟩
    · rw [Language.classLines_eq_map, ModelSet.models, List.map_append, List.map_singleton]
    · exact language.declares_fields settings models.names models.root
  · rw [rootFields]
    exact forall₂_map fun member _ => ⟨rfl, fun levels shown => Language.admitsNull_iff shown⟩
  · rw [Language.AdmitsNulls, rootFields]
    exact Language.forall₂_admitsNull_iff

/-- In this document null stands at the root, below one list and below two lists, and other lists
show nothing or something else first. -/
def scoreSheet : List (String × Json) :=
  [("judge", .null), ("marks", .array [.null, .integer 7]),
   ("rounds", .array [.array [.null], .array [.integer 3]]), ("fouls", .array []),
   ("names", .array [.string "Ada", .null])]

/-- In Kotlin the nulls of the document are tracked. -/
theorem scoreSheet_nulls_tracked :
    (Json.object scoreSheet).heldObject? = some scoreSheet ∧
      ∃ extraction, ofDocument false "Sheet" (.object scoreSheet) = .ok extraction ∧
        Language.kotlin.TracksNulls ⟨true, some .jackson, ""⟩ extraction.models scoreSheet :=
  ⟨rfl, nulls_tracked rfl false "Sheet" .kotlin ⟨true, some .jackson, ""⟩⟩

/-- In Kotlin a list that starts with null is declared as a list of values other than null. -/
theorem listedNull_not_admitted :
    ∃ extraction, ofDocument false "Model" (.object [("a", .array [.null])]) = .ok extraction ∧
      ∀ settings, ¬ Language.kotlin.AdmitsNulls settings extraction.models
        [("a", .array [.null])] := by
  refine ⟨ofMembers false "Model" [("a", .array [.null])], rfl, fun settings => ?_⟩
  rw [Language.AdmitsNulls, root_ofMembers]
  intro admits
  exact Language.forall₂_admitsNull_iff.mp admits rfl _ List.mem_cons_self 0 rfl

end Extraction

end Exemplar
