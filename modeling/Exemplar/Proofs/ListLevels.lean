import Exemplar.Proofs.DistinctTypes
import Exemplar.Proofs.SampleTypes

namespace Exemplar

/-- Following first items that many times may lead from a value to another one. -/
def Json.below? : Nat → Json → Option Json
  | 0, value => some value
  | levels + 1, .array (first :: _) => below? levels first
  | _ + 1, _ => none

/-- This function puts a type below that many levels of lists. -/
def FieldType.listed : Nat → FieldType → FieldType
  | 0, type => type
  | levels + 1, type => .list (listed levels type)

namespace Shape

variable {known : NameSet} {levels : Nat} {value inner : Json} {type : FieldType}

/-- What a value shows below its lists has its type below as many levels. -/
theorem resolve_infer_of_below (shown : value.below? levels = some inner) :
    (infer value).resolve known = .listed levels ((infer inner).resolve known) := by
  induction levels generalizing value with
  | zero =>
      obtain rfl := Option.some.inj shown
      rfl
  | succ levels inductionHypothesis =>
      match value with
      | .array (first :: rest) => exact congrArg FieldType.list (inductionHypothesis shown)

/-- Only an array has the type of a list. -/
theorem exists_items_of_resolve_infer (list : (infer value).resolve known = .list type) :
    ∃ items, value = .array items := by
  apply isList_infer_iff.mp
  cases shape : infer value with
  | list item => rfl
  | reference model =>
      rw [shape, resolve] at list
      split at list <;> cases list
  | primitive primitive => cases shape ▸ list
  | dynamic => cases shape ▸ list

/-- A type stands below levels of lists exactly when a value of that type does, unless nothing is
known about the type. -/
theorem resolve_infer_eq_listed_iff (typed : type ≠ .dynamic) :
    (infer value).resolve known = .listed levels type ↔
      ∃ inner, value.below? levels = some inner ∧ (infer inner).resolve known = type := by
  constructor
  · intro listed
    induction levels generalizing value with
    | zero => exact ⟨value, rfl, listed⟩
    | succ levels inductionHypothesis =>
        obtain ⟨items, rfl⟩ := exists_items_of_resolve_infer listed
        cases items with
        | nil =>
            -- The items of an empty list are unknown, and so is everything below them.
            have unknown : FieldType.dynamic = .listed levels type := FieldType.list.inj listed
            cases levels with
            | zero => exact absurd unknown.symm typed
            | succ levels => cases unknown
        | cons first rest => exact inductionHypothesis (FieldType.list.inj listed)
  · rintro ⟨inner, shown, rfl⟩
    exact resolve_infer_of_below shown

/-- Only an object of a known name has the type of a model. -/
theorem resolve_infer_eq_model_iff {model : String} :
    (infer value).resolve known = .model model ↔
      ∃ object, value = .object object ∧ referenceName object = model ∧ model ∈ known := by
  constructor
  · intro same
    have isKnown := mem_of_resolve_eq_model same
    cases value with
    | object members =>
        rw [infer, resolve] at same
        split at same
        · exact ⟨members, rfl, FieldType.model.inj same, isKnown⟩
        · cases same
    | array items => cases items <;> cases same
    | _ => cases same
  · rintro ⟨object, rfl, rfl, isKnown⟩
    exact if_pos isKnown

end Shape

/-- A value decides the type of a field when it is the first value under a key that is not null
among the objects that a model is read off. -/
def Json.DecidesField (rootName : String) (members : List (String × Json)) (value : Json) : Prop :=
  ∃ name sources, ReadOff rootName members name sources ∧
    ∃ key, firstKnown? key sources = some value

namespace Extraction

variable {nullSafety : Bool} {name : String} {members : List (String × Json)}

/-- What is impossible for a field of unknown type holds of some field exactly when it holds of the
type of a value that decides a field. -/
theorem exists_field_iff (wellFormed : (Json.object members).WellFormed) (holds : Shape → Prop)
    (unknown : ¬ holds .dynamic) :
    (∃ model ∈ (ofMembers nullSafety name members).models.models, ∃ field ∈ model.fields,
        holds field.shape) ↔
      ∃ value, Json.DecidesField name members value ∧ holds (Shape.infer value) := by
  constructor
  · rintro ⟨model, member, field, present, held⟩
    obtain ⟨known, sources, readOff, rfl⟩ := (mem_models_ofMembers wellFormed).mp member
    rw [Model.shape_ofSamples present] at held
    cases first : Json.firstKnown? field.key sources with
    | none =>
        rw [first] at held
        exact absurd held unknown
    | some value =>
        rw [first] at held
        exact ⟨value, ⟨known, sources, readOff, field.key, first⟩, held⟩
  · rintro ⟨value, ⟨known, sources, readOff, key, first⟩, held⟩
    obtain ⟨source, sourced, shown⟩ := List.exists_of_findSome?_eq_some first
    have present := Model.ofShown_mem_fields nullSafety known sourced (Json.mem_of_known? shown).1
    refine ⟨_, (mem_models_ofMembers wellFormed).mpr ⟨known, sources, readOff, rfl⟩, _, present, ?_⟩
    rw [Model.shape_ofSamples present]
    show holds (((Json.firstKnown? key sources).map Shape.infer).getD .dynamic)
    rw [first]
    exact held

end Extraction

namespace Language

/-- A written type has another one below that many levels of lists. A list type may be marked with a
question mark. -/
inductive TypeBelow (language : Language) : Nat → String → String → Prop where
  | here (text : String) : TypeBelow language 0 text text
  | item {levels : Nat} {item mark inner : String} (marked : mark ∈ ["", "?"])
      (below : TypeBelow language levels item inner) :
      TypeBelow language (levels + 1) (language.dialect.list item ++ mark) inner

/-- A list type with a mark or without one tells the type of its items. -/
theorem eq_of_list_append (language : Language) {first second mark other : String}
    (marked : mark ∈ ["", "?"]) (otherMarked : other ∈ ["", "?"])
    (same : language.dialect.list first ++ mark = language.dialect.list second ++ other) :
    first = second := by
  have unmarked (item : String) : (language.dialect.list item).toList.getLast? ≠ some '?' := by
    cases language with
    | typeScript => simp [dialect, TypeScript.dialect]
    | dart =>
        rw [dialect, Dart.dialect, String.toList_append, List.getLast?_append]
        simp
    | kotlin =>
        rw [dialect, Kotlin.dialect, String.toList_append, List.getLast?_append]
        simp
  have mismatch {left right : String}
      (same : language.dialect.list left = language.dialect.list right ++ "?") : False := by
    apply unmarked left
    simp [same]
  simp only [List.mem_cons, List.not_mem_nil, or_false] at marked otherMarked
  rcases marked with rfl | rfl <;> rcases otherMarked with rfl | rfl
  · exact language.list_injective (by simpa using same)
  · exact (mismatch (by simpa using same)).elim
  · exact (mismatch (by simpa using same.symm)).elim
  · exact language.list_injective ((String.append_left_inj _).mp same)

variable {language : Language} {levels : Nat} {item mark inner : String}

/-- One level of a list type leads to the type of its items. -/
theorem typeBelow_list_iff (marked : mark ∈ ["", "?"]) :
    language.TypeBelow (levels + 1) (language.dialect.list item ++ mark) inner ↔
      language.TypeBelow levels item inner := by
  constructor
  · intro below
    generalize written : language.dialect.list item ++ mark = text at below
    cases below with
    | item otherMarked below =>
        rw [language.eq_of_list_append marked otherMarked written]
        exact below
  · exact .item marked

/-- Below no levels a written type has only itself. -/
theorem typeBelow_zero_iff {text : String} : language.TypeBelow 0 text inner ↔ inner = text := by
  constructor
  · intro below
    cases below with
    | here => rfl
  · rintro rfl
    exact .here _

/-- Below all levels of its lists a written type has the text of the type there. -/
theorem typeBelow_type_iff {type : FieldType} :
    language.TypeBelow levels (language.dialect.type (.listed levels type)) inner ↔
      inner = language.dialect.type type := by
  induction levels with
  | zero => exact typeBelow_zero_iff
  | succ levels inductionHypothesis =>
      have list : language.TypeBelow (levels + 1)
          (language.dialect.list (language.dialect.type (.listed levels type)) ++ "") inner ↔ _ :=
        typeBelow_list_iff List.mem_cons_self
      rw [String.append_empty, inductionHypothesis] at list
      exact list

/-- Below all levels of its lists a marked type has the text of the type there, which carries the
mark only if there are no lists. -/
theorem typeBelow_listed_iff {type : FieldType} (marked : mark ∈ ["", "?"]) :
    language.TypeBelow levels (language.dialect.type (.listed levels type) ++ mark) inner ↔
      inner = language.dialect.type type ++ if levels = 0 then mark else "" := by
  cases levels with
  | zero =>
      rw [if_pos rfl]
      exact typeBelow_zero_iff
  | succ levels =>
      rw [FieldType.listed, Dialect.type, typeBelow_list_iff marked, typeBelow_type_iff,
        if_neg levels.succ_ne_zero, String.append_empty]

end Language

end Exemplar
