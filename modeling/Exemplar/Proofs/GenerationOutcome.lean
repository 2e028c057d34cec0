import Exemplar.Generation
import Exemplar.Proofs.CompleteModels
import Exemplar.Proofs.RenderedFiles

/-
Outcomes of generations. A generation is refused for its options whatever the document is, then for
a document that holds no object, and in all other cases it gives a result: nothing that the
extraction and the rendering look up is missing.
-/

namespace Exemplar

namespace Language

def spellings : Language → List String
  | .typeScript => ["typescript", "ts"]
  | .dart => ["dart"]
  | .kotlin => ["kotlin", "kt"]

/-- A value names a language when its text, in lower case and without blanks around it, is one of
the spellings of the language. -/
def NamedBy (language : Language) (value : Json) : Prop :=
  String.ofList (Unicode.lower (Unicode.trim value.plainText.toList)) ∈ language.spellings

instance (language : Language) (value : Json) : Decidable (language.NamedBy value) :=
  inferInstanceAs (Decidable (_ ∈ language.spellings))

/-- A language accepts a text as a style when the text, or the style that it is a label of, is the
name of one of its styles, perhaps in capitals. -/
def AcceptsText (language : Language) (given : String) : Prop :=
  ∃ style ∈ language.styles,
    let candidate := ((Style.ofLabel? given).map Style.name).getD given
    candidate = style.name ∨ String.ofList (Unicode.lower candidate.toList) = style.name

/-- A language accepts only texts as styles. -/
def Accepts (language : Language) (value : Json) : Prop :=
  ∃ given, value = .string given ∧ language.AcceptsText given

/-- A language is found under exactly its spellings. -/
theorem ofName?_eq_some_iff {name : String} {language : Language} :
    ofName? name = some language ↔ name ∈ language.spellings := by
  by_cases spelled : name ∈ all.flatMap spellings
  · have listed : name = "typescript" ∨ name = "ts" ∨ name = "dart" ∨ name = "kotlin" ∨
        name = "kt" := by
      simpa [all, spellings] using spelled
    rcases listed with rfl | rfl | rfl | rfl | rfl <;> cases language <;> decide
  · have unspelled : name ∉ language.spellings := by
      intro member
      exact spelled (List.mem_flatMap.mpr ⟨language, by cases language <;> decide, member⟩)
    have unnamed : ofName? name = none := by
      obtain ⟨typeScript, ts, dart, kotlin, kt⟩ : name ≠ "typescript" ∧ name ≠ "ts" ∧
          name ≠ "dart" ∧ name ≠ "kotlin" ∧ name ≠ "kt" := by
        simpa [all, spellings] using spelled
      simp [ofName?, ofAlias?, all, Language.name, typeScript.symm, dart.symm, kotlin.symm]
    rw [unnamed]
    exact iff_of_false (Option.some_ne_none language).symm unspelled

/-- A value is understood as a language exactly when it names the language. -/
theorem parse_eq_ok_iff {value : Json} {language : Language} :
    parse value = .ok language ↔ language.NamedBy value := by
  rw [NamedBy, ← ofName?_eq_some_iff, ← ofValue?, parse]
  cases ofValue? value <;> simp

theorem parse_name (language : Language) : parse (.string language.name) = .ok language := by
  have found : ofValue? (.string language.name) = some language := by
    cases language <;> decide +kernel
  rw [parse, found]

/-- A value that names no language is refused for it. -/
theorem concern_of_parse {value : Json} {error : Error}
    (refused : parse value = .error error) : error.concern = .options := by
  unfold parse at refused
  split at refused
  · cases refused
  · obtain rfl := Except.error.inj refused
    rfl

theorem exists_styleNamed?_iff {language : Language} {name : String} :
    (∃ style, language.styleNamed? name = some style) ↔
      ∃ style ∈ language.styles, name = style.name := by
  rw [styleNamed?, ← Option.isSome_iff_exists, List.find?_isSome]
  simp only [beq_iff_eq, @eq_comm String name]

/-- A style is looked for under the name that a label stands for, or the text itself, and then in
lower case. -/
theorem styleOf?_eq (language : Language) (given : String) :
    language.styleOf? given =
      (language.styleNamed? (((Style.ofLabel? given).map Style.name).getD given)).or
        (language.styleNamed? (String.ofList
          (Unicode.lower (((Style.ofLabel? given).map Style.name).getD given).toList))) := by
  unfold styleOf?
  cases Style.ofLabel? given with
  | none => simp only [Option.map_none, Option.getD_none]; split <;> simp_all
  | some style => simp only [Option.map_some, Option.getD_some]; split <;> simp_all

/-- A style is found for exactly the texts that a language accepts. -/
theorem exists_styleOf?_iff {language : Language} {given : String} :
    (∃ style, language.styleOf? given = some style) ↔ language.AcceptsText given := by
  rw [styleOf?_eq, ← Option.isSome_iff_exists, Option.isSome_or, Bool.or_eq_true,
    Option.isSome_iff_exists, Option.isSome_iff_exists, exists_styleNamed?_iff,
    exists_styleNamed?_iff, ← exists_or]
  simp only [← and_or_left]
  rfl

end Language

namespace Options

/-- The options of a generation are refused when no language is named, or when the language that is
named does not accept the style. -/
def Refused (options : Options) (value : Json) : Prop :=
  (∀ language : Language, ¬ language.NamedBy value) ∨
    ∃ language : Language, language.NamedBy value ∧ ¬ language.Accepts options.serializationStyle

/-- Options are valid for a language exactly when the language accepts their style. -/
theorem exists_validatedFor_iff {options : Options} {language : Language} :
    (∃ checked, options.validatedFor language = .ok checked) ↔
      language.Accepts options.serializationStyle := by
  unfold validatedFor Language.Accepts
  cases options.serializationStyle with
  | string given =>
      simp only [Json.string.injEq, exists_eq_left', ← Language.exists_styleOf?_iff,
        Language.normalizeStyle]
      cases language.styleOf? given with
      | none => simp [bind, Except.bind]
      | some style => simp [bind, Except.bind]
  | _ => simp [Language.normalizeStyle, bind, Except.bind]

/-- Options that are not valid are refused for their style. -/
theorem concern_of_validatedFor {options : Options} {language : Language} {error : Error}
    (refused : options.validatedFor language = .error error) : error.concern = .options := by
  unfold validatedFor Language.normalizeStyle at refused
  split at refused
  · split at refused
    · cases refused
    · obtain rfl := Except.error.inj refused
      rfl
  · obtain rfl := Except.error.inj refused
    rfl

end Options

/-- Only a document that holds no object is refused. -/
theorem Extraction.ofDocument_of_noObject {nullSafety : Bool} {given : String} {document : Json}
    (noObject : document.heldObject? = none) :
    ∃ error, ofDocument nullSafety given document = .error error ∧
      error.concern = .document := by
  cases document with
  | object => cases noObject
  | array items =>
      cases items with
      | nil => exact ⟨_, rfl, rfl⟩
      | cons first rest =>
          cases first with
          | object => cases noObject
          | _ => exact ⟨_, rfl, rfl⟩
  | _ => exact ⟨_, rfl, rfl⟩

namespace Generation

/-- This function returns the generation that ends an extraction with checked options. -/
def ofExtraction (language : Language) (checked : Options) (extraction : Extraction) :
    Generation where
  code := (language.emit checked.settings extraction.models).code
  fileName := (language.emit checked.settings extraction.models).fileName
  language := language
  notices := extraction.notices ++
    [.emitting extraction.models.models.length language checked.serializationStyle.plainText]

variable {value : Json} {options : Options}

/-- A generation in a language that is named is one in that language. -/
theorem run_of_named {language : Language} (named : Language.parse value = .ok language)
    (document : Json) (given : String) :
    run value document given options = inLanguage language document given options := by
  rw [run, named]
  rfl

/-- The style of checked options is a text. -/
theorem isTableKey_of_checked {language : Language} {checked : Options}
    (valid : options.validatedFor language = .ok checked) :
    checked.serializationStyle.isTableKey = true := by
  rw [Options.validatedFor] at valid
  cases found : language.normalizeStyle options.serializationStyle with
  | error error =>
      rw [found] at valid
      cases valid
  | ok style =>
      rw [found] at valid
      obtain rfl := Except.ok.inj valid
      rfl

/-- A session emits marked models as they stand in the source trees. -/
theorem emit_start {language : Language} {checked : Options} {set : ModelSet}
    (isKey : checked.serializationStyle.isTableKey = true)
    (marked : ∀ model ∈ set.models, model.Marked) :
    ((Session.start language checked).emit set).2 =
      .ok ((language.emit checked.settings set).code,
        (language.emit checked.settings set).fileName) := by
  have written : (language.renderer.write checked set).perform
      (Session.start language checked).toMemory = _ :=
    language.perform_write (fun _ _ _ _ _ _ => isKey) marked
  rw [Session.emit, language.fileName_emit]
  show Except.map _ ((language.renderer.write checked set).perform _).1 = _
  rw [written]
  rfl

/-- A generation gives the code of the source trees, which are there once options are checked and
models are extracted. -/
theorem inLanguage_eq (language : Language) (document : Json) (given : String)
    (options : Options) :
    inLanguage language document given options = (do
      let checked ← options.validatedFor language
      Except.map (ofExtraction language checked)
        (Extraction.ofDocument checked.nullSafety.truthy given document)) := by
  rw [inLanguage]
  cases valid : options.validatedFor language with
  | error error => rfl
  | ok checked =>
      rw [ok_bind, ok_bind, Extraction.ofDocument_eq]
      cases Extraction.rootMembers document with
      | error error => rfl
      | ok members =>
          simp only [Except.map, ok_bind,
            emit_start (isTableKey_of_checked valid) Extraction.marked_ofMembers]
          rfl

/-- With a known language and checked options only the extraction can fail. -/
theorem run_of_checked {language : Language} {checked : Options}
    (named : Language.parse value = .ok language)
    (valid : options.validatedFor language = .ok checked) (document : Json) (given : String) :
    run value document given options =
      (Extraction.ofDocument checked.nullSafety.truthy given document).map
        (ofExtraction language checked) := by
  rw [run_of_named named, inLanguage_eq, valid]
  rfl

/-- Refused options end a generation whatever the document is. -/
theorem run_of_refused (refused : options.Refused value) (document : Json) (given : String) :
    ∃ error, run value document given options = .error error ∧ error.concern = .options := by
  cases named : Language.parse value with
  | error error =>
      refine ⟨error, ?_, Language.concern_of_parse named⟩
      rw [run, named]
      rfl
  | ok language =>
      have unaccepted : ¬ language.Accepts options.serializationStyle := by
        rcases refused with unnamed | ⟨other, otherNamed, unaccepted⟩
        · exact absurd (Language.parse_eq_ok_iff.mp named) (unnamed language)
        · obtain rfl : language = other := by
            simpa [named] using Language.parse_eq_ok_iff.mpr otherNamed
          exact unaccepted
      cases valid : options.validatedFor language with
      | ok checked => exact absurd (Options.exists_validatedFor_iff.mp ⟨checked, valid⟩) unaccepted
      | error error =>
          refine ⟨error, ?_, Options.concern_of_validatedFor valid⟩
          rw [run_of_named named, inLanguage, valid]
          rfl

/-- Options that are not refused name a language and are valid for it. -/
theorem exists_checked (accepted : ¬ options.Refused value) :
    ∃ language checked, Language.parse value = .ok language ∧
      options.validatedFor language = .ok checked := by
  obtain ⟨named, valid⟩ : (∃ language : Language, language.NamedBy value) ∧
      ∀ language : Language, language.NamedBy value →
        language.Accepts options.serializationStyle := by
    simpa [Options.Refused] using accepted
  obtain ⟨language, named⟩ := named
  obtain ⟨checked, valid⟩ := Options.exists_validatedFor_iff.mpr (valid language named)
  exact ⟨language, checked, Language.parse_eq_ok_iff.mpr named, valid⟩

/-- A document that holds no object ends a generation whose options are valid. -/
theorem run_of_noObject (accepted : ¬ options.Refused value) {document : Json}
    (noObject : document.heldObject? = none) (given : String) :
    ∃ error, run value document given options = .error error ∧ error.concern = .document := by
  obtain ⟨language, checked, named, valid⟩ := exists_checked accepted
  obtain ⟨error, refused, concerns⟩ := Extraction.ofDocument_of_noObject noObject
  exact ⟨error, by rw [run_of_checked named valid, refused]; rfl, concerns⟩

/-- In all other cases a generation gives the code of the models of its document. -/
theorem run_of_object (accepted : ¬ options.Refused value) {document : Json}
    {members : List (String × Json)} (root : document.heldObject? = some members)
    (given : String) :
    ∃ language checked, run value document given options =
      .ok (ofExtraction language checked (Extraction.ofMembers checked.nullSafety.truthy
        (Extraction.rootName given) members)) := by
  obtain ⟨language, checked, named, valid⟩ := exists_checked accepted
  have extracted : Extraction.ofDocument checked.nullSafety.truthy given document =
      .ok (Extraction.ofMembers checked.nullSafety.truthy (Extraction.rootName given) members) :=
    Extraction.ofDocument_eq_ok_iff.mpr ⟨members, root, rfl⟩
  refine ⟨language, checked, ?_⟩
  rw [run_of_checked named valid, extracted]
  rfl

/-- No step of the program fails for a lookup. -/
theorem concern_of_run {document : Json} {given : String} {error : Error}
    (failed : run value document given options = .error error) : error.concern ≠ .program := by
  by_cases refused : options.Refused value
  · obtain ⟨other, otherFailed, concern⟩ := run_of_refused refused document given
    obtain rfl := Except.error.inj (failed.symm.trans otherFailed)
    simp [concern]
  · cases root : document.heldObject? with
    | none =>
        obtain ⟨other, otherFailed, concern⟩ := run_of_noObject refused root given
        obtain rfl := Except.error.inj (failed.symm.trans otherFailed)
        simp [concern]
    | some members =>
        obtain ⟨language, checked, succeeded⟩ := run_of_object refused root given
        cases failed.symm.trans succeeded

/-- A generation is refused for its options exactly when no language is named or the style is not
accepted, then for a document exactly when that holds no object, and otherwise it gives a result. No
step of the program finds something missing, and neither does a language that looks up the initial
value of a field that is not nullable. -/
theorem run_outcome (value document : Json) (given : String) (options : Options) :
    ((∃ error, run value document given options = .error error ∧ error.concern = .options) ↔
      options.Refused value) ∧
    ((∃ error, run value document given options = .error error ∧ error.concern = .document) ↔
      ¬ options.Refused value ∧ document.heldObject? = none) ∧
    ((∃ generation, run value document given options = .ok generation) ↔
      ¬ options.Refused value ∧ ∃ members, document.heldObject? = some members) ∧
    (∀ error, run value document given options = .error error → error.concern ≠ .program) ∧
    ∀ nullSafety extraction, Extraction.ofDocument nullSafety given document = .ok extraction →
      ∀ language : Language, ∀ model ∈ extraction.models.models, ∀ field ∈ model.fields,
        ∃ initial, language.renderedInitial? extraction.models.names field = .ok initial ∧
          (field.nullable = false → initial.isSome = true) := by
  rw [← and_assoc, ← and_assoc]
  refine ⟨?_, fun _ => concern_of_run, ?_⟩
  · -- The three outcomes exclude each other, so each case decides all three equivalences.
    by_cases refused : options.Refused value
    · obtain ⟨error, failed, concern⟩ := run_of_refused refused document given
      simp [failed, refused, concern]
    · cases root : document.heldObject? with
      | none =>
          obtain ⟨error, failed, concern⟩ := run_of_noObject refused root given
          simp [failed, refused, concern]
      | some members =>
          obtain ⟨language, checked, succeeded⟩ := run_of_object refused root given
          simp [succeeded, refused]
  · intro nullSafety extraction extracted language model listed field present
    obtain ⟨members, _, rfl⟩ := Extraction.ofDocument_eq_ok_iff.mp extracted
    have marked := Extraction.marked_ofMembers model listed field present
    refine ⟨_, language.renderedInitial?_eq _ marked, ?_⟩
    intro required
    obtain ⟨text, found⟩ := Extraction.exists_initialText language _ listed present required
    rw [found]
    rfl

/-- This document is a list whose first item holds samples at several depths. -/
def listedHomes : List (String × Json) :=
  [("first_name", .string "Ada"), ("rooms", .array [.array [.object [("no", .integer 1)]]]),
   ("home", .object [("zip", .null), ("street_no", .integer 5)]),
   ("others", .array [.object [("zip", .string "1234")], .boolean true])]

/-- These options give the style by its label and the other options by values of other kinds. -/
def labelledOptions : Options where
  includeConstructor := .integer 0
  nullSafety := .array []
  serializationStyle := .string "Jackson"
  packageName := .integer 5

/-- The options are accepted for Kotlin. -/
theorem labelledOptions_not_refused : ¬ labelledOptions.Refused (.string " KT") := by
  have named : Language.NamedBy .kotlin (.string " KT") := by decide
  rintro (unnamed | ⟨language, otherNamed, unaccepted⟩)
  · exact unnamed .kotlin named
  · have same := (Language.parse_eq_ok_iff.mpr named).symm.trans
      (Language.parse_eq_ok_iff.mpr otherNamed)
    obtain rfl := Except.ok.inj same
    exact unaccepted ⟨"Jackson", rfl, .jackson, by decide, .inl rfl⟩

/-- The list gives a result, and each of its fields has an initial value unless it is nullable. -/
theorem listedHomes_run_outcome :
    (∃ generation, run (.string " KT") (.array [.object listedHomes, .null]) "home owner"
        labelledOptions = .ok generation) ∧
      ∃ extraction, Extraction.ofDocument false "home owner"
          (.array [.object listedHomes, .null]) = .ok extraction ∧
        ∀ language : Language, ∀ model ∈ extraction.models.models, ∀ field ∈ model.fields,
          ∃ initial, language.renderedInitial? extraction.models.names field = .ok initial ∧
            (field.nullable = false → initial.isSome = true) := by
  obtain ⟨_, _, result, _, initial⟩ := run_outcome (.string " KT")
    (.array [.object listedHomes, .null]) "home owner" labelledOptions
  have extracted : Extraction.ofDocument false "home owner"
      (.array [.object listedHomes, .null]) =
        .ok (Extraction.ofMembers false (Extraction.rootName "home owner") listedHomes) :=
    Extraction.ofDocument_eq_ok_iff.mpr ⟨listedHomes, rfl, rfl⟩
  exact ⟨result.mpr ⟨labelledOptions_not_refused, listedHomes, rfl⟩, _, extracted,
    initial false _ extracted⟩

end Generation

end Exemplar
