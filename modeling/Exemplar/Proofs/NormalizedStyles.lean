import Exemplar.Proofs.DirectoryTargets
import Exemplar.Proofs.ResolvedOptions
import Mathlib.Data.List.Forall2

namespace Exemplar

namespace Unicode

/-- The names of styles are written in small Latin letters and hyphens. -/
def IsNameCharacter (character : Char) : Prop :=
  IsSmallLatin character ∨ character = '-'

instance : DecidablePred IsNameCharacter := fun _ => inferInstanceAs (Decidable (_ ∨ _))

/-- A character spells a letter when it is the letter, its capital or the sign for kelvins. -/
def Spells (character letter : Char) : Prop :=
  character = letter ∨ character = letter.toUpper ∨ character = '\u212A' ∧ letter = 'k'

instance (character letter : Char) : Decidable (Spells character letter) :=
  inferInstanceAs (Decidable (_ ∨ _ ∨ _))

/-- A run of lower-case forms is that of the capital letters, holds the sign for kelvins alone, or
lies beyond the small letters. -/
theorem runs_lowerMapping :
    ∀ run ∈ lowerMapping.runs,
      (run.first = 0x41 ∧ run.last = 0x5A ∧ run.target = 0x61) ∨
        (run.first = 0x212A ∧ run.last = 0x212A ∧ run.target = 0x6B) ∨ 0x7A < run.target := by
  decide +kernel

/-- No expansion to lower case is written in the characters of names. -/
theorem expansions_lowerMapping :
    ∀ expansion ∈ lowerMapping.expansions,
      ∃ code ∈ expansion.2, ¬ IsNameCharacter (Char.ofNat code) := by
  decide +kernel

/-- A capital letter spells the small one. -/
theorem spells_of_capital {code : Nat} (low : 0x41 ≤ code) (high : code ≤ 0x5A) :
    Spells (Char.ofNat code) (Char.ofNat (0x61 + (code - 0x41))) := by
  have capitals : ∀ code < 0x5B, 0x41 ≤ code →
      Spells (Char.ofNat code) (Char.ofNat (0x61 + (code - 0x41))) := by
    decide +kernel
  exact capitals code (Nat.lt_succ_of_le high) low

/-- A code point beyond the small letters gives no character of a name. -/
theorem not_isNameCharacter_ofNat {code : Nat} (beyond : 0x7A < code) :
    ¬ IsNameCharacter (Char.ofNat code) := by
  rintro (small | hyphen)
  · exact not_isSmallLatin_ofNat (by omega) small
  · by_cases valid : code.isValidChar
    · rw [Char.ofNat, dif_pos valid] at hyphen
      have same : code = '-'.toNat := congrArg Char.toNat hyphen
      rw [same] at beyond
      exact absurd beyond (by decide)
    · rw [Char.ofNat, dif_neg valid] at hyphen
      exact absurd hyphen (by decide)

/-- A character whose lower-case form may stand in a name spells a single letter. -/
theorem lowerForm_of_isNameCharacter {character : Char}
    (named : ∀ form ∈ lowerForm character, IsNameCharacter form) :
    ∃ letter, lowerForm character = [letter] ∧ Spells character letter := by
  rw [lowerForm] at named ⊢
  rcases lowerMapping.form_cases character with
    ⟨expansion, listed, form⟩ | ⟨run, listed, low, high, form⟩ | ⟨_, form⟩
  · rw [form] at named
    obtain ⟨code, member, foreign⟩ := expansions_lowerMapping expansion listed
    exact absurd (named _ (List.mem_map_of_mem member)) foreign
  · rw [form] at named ⊢
    refine ⟨_, rfl, ?_⟩
    rcases runs_lowerMapping run listed with ⟨first, last, start⟩ | ⟨first, last, start⟩ | beyond
    · rw [first] at low ⊢
      rw [start, ← Char.ofNat_toNat character]
      simpa using spells_of_capital low (last ▸ high)
    · have sign : character = '\u212A' := by
        have code : character.toNat = 0x212A := by omega
        rw [← Char.ofNat_toNat character, code]
      subst sign
      rw [first, start]
      decide
    · exact absurd (named _ List.mem_cons_self) (not_isNameCharacter_ofNat (by omega))
  · exact ⟨character, form, .inl rfl⟩

/-- The characters that spell a letter of a name have it as their lower-case form. -/
theorem lowerForm_of_spells {character letter : Char} (named : IsNameCharacter letter)
    (spells : Spells character letter) :
    character ≠ 'Σ' ∧ lowerForm character = [letter] := by
  have letters : ∀ code < 0x7B, IsNameCharacter (Char.ofNat code) →
      [Char.ofNat code, (Char.ofNat code).toUpper].all fun spelling =>
        spelling ≠ 'Σ' ∧ lowerForm spelling = [Char.ofNat code] := by
    decide +kernel
  simp only [List.all_cons, List.all_nil, Bool.and_true, Bool.and_eq_true, decide_eq_true_eq]
    at letters
  have within : letter.toNat < 0x7B := by
    rcases named with small | rfl
    · exact Nat.lt_succ_of_le small.2
    · decide
  rw [← Char.ofNat_toNat letter] at named spells ⊢
  rcases spells with small | capital | ⟨rfl, isK⟩
  · exact small ▸ (letters _ within named).1
  · exact capital ▸ (letters _ within named).2
  · rw [isK]
    decide +kernel

/-- A text is a name in lower case exactly when its characters spell the letters of the name. -/
theorem lowerAfter_eq_iff {text name : List Char}
    (named : ∀ letter ∈ name, IsNameCharacter letter) (before : List Char) :
    lowerAfter before text = name ↔ List.Forall₂ Spells text name := by
  constructor
  · intro lowered
    induction text generalizing before name with
    | nil =>
        subst lowered
        exact .nil
    | cons character rest inductionHypothesis =>
        subst lowered
        simp only [lowerAfter, List.forall_mem_append] at named ⊢
        obtain ⟨formNamed, restNamed⟩ := named
        split at formNamed
        · exact absurd (formNamed 'ς' List.mem_cons_self) (by decide)
        next notFinal =>
          obtain ⟨letter, form, spells⟩ := lowerForm_of_isNameCharacter formNamed
          rw [if_neg notFinal, form]
          exact .cons spells (inductionHypothesis restNamed _ rfl)
  · intro spelled
    induction spelled generalizing before with
    | nil => rfl
    | cons spells _ inductionHypothesis =>
        obtain ⟨letterNamed, restNamed⟩ := List.forall_mem_cons.mp named
        obtain ⟨notSigma, form⟩ := lowerForm_of_spells letterNamed spells
        simp only [lowerAfter, notSigma, false_and, if_false, form, List.singleton_append]
        rw [inductionHypothesis restNamed]

end Unicode

namespace Style

theorem isNameCharacter_of_mem_name (style : Style) :
    ∀ letter ∈ style.name.toList, Unicode.IsNameCharacter letter := by
  have named : style.name.toList.all (Unicode.IsNameCharacter ·) := by cases style <;> decide
  simpa using named

theorem name_inj {style other : Style} (same : style.name = other.name) : style = other := by
  have found (style : Style) : ofName? style.name = some style := by cases style <;> decide
  exact Option.some.inj ((found style).symm.trans (same ▸ found other))

theorem ofLabel?_name (style : Style) : ofLabel? style.name = none := by
  cases style <;> decide

/-- A text is the name of a style in lower case exactly when its characters spell the name. -/
theorem lower_eq_name_iff {given : String} {style : Style} :
    String.ofList (Unicode.lower given.toList) = style.name ↔
      List.Forall₂ Unicode.Spells given.toList style.name.toList := by
  rw [← String.toList_inj, String.toList_ofList, Unicode.lower,
    Unicode.lowerAfter_eq_iff style.isNameCharacter_of_mem_name]

theorem lower_name (style : Style) :
    String.ofList (Unicode.lower style.name.toList) = style.name :=
  lower_eq_name_iff.mpr (List.forall₂_same.mpr fun _ _ => .inl rfl)

/-- A text asks for a name in lower case. A label asks for the name of its style, and any other text
asks for itself. -/
def askedName (given : String) : String :=
  String.ofList (Unicode.lower (((ofLabel? given).map name).getD given).toList)

theorem askedName_name (style : Style) : askedName style.name = style.name := by
  rw [askedName, ofLabel?_name]
  exact style.lower_name

end Style

namespace Language

variable {language : Language} {style : Style}

/-- A style is found under exactly its name. -/
theorem styleNamed?_eq_some_iff {name : String} :
    language.styleNamed? name = some style ↔ style ∈ language.styles ∧ name = style.name := by
  constructor
  · intro found
    rw [styleNamed?] at found
    have sameName := List.find?_some found
    exact ⟨List.mem_of_find?_eq_some found, (eq_of_beq sameName).symm⟩
  · rintro ⟨legal, rfl⟩
    obtain ⟨other, found⟩ := exists_styleNamed?_iff.mpr ⟨style, legal, rfl⟩
    rw [found]
    have sameName := List.find?_some found
    rw [Style.name_inj (eq_of_beq sameName)]

/-- A style is found for exactly the texts that ask for its name. -/
theorem styleOf?_eq_some_iff {given : String} :
    language.styleOf? given = some style ↔
      style ∈ language.styles ∧ Style.askedName given = style.name := by
  rw [styleOf?_eq, Option.or_eq_some_iff, Style.askedName]
  generalize ((Style.ofLabel? given).map Style.name).getD given = candidate
  simp only [styleNamed?_eq_some_iff]
  constructor
  · rintro (⟨legal, rfl⟩ | ⟨_, asked⟩)
    · exact ⟨legal, style.lower_name⟩
    · exact asked
  · rintro ⟨legal, asked⟩
    cases exact : language.styleNamed? candidate with
    | none => exact .inr ⟨rfl, legal, asked⟩
    | some other =>
        -- The name of a style is in lower case already, so no other style is asked for.
        obtain ⟨otherLegal, rfl⟩ := styleNamed?_eq_some_iff.mp exact
        rw [other.lower_name] at asked
        exact .inl ⟨legal, asked⟩

/-- A value is normalized to a style exactly when it is a text that asks for the name of the style,
and the style is one of the language. -/
theorem normalizeStyle_eq_ok_iff {value : Json} :
    language.normalizeStyle value = .ok style ↔
      ∃ given, value = .string given ∧ style ∈ language.styles ∧
        Style.askedName given = style.name := by
  cases value with
  | string given =>
      simp only [Json.string.injEq, exists_eq_left', ← styleOf?_eq_some_iff, normalizeStyle]
      cases language.styleOf? given <;> simp
  | _ => simp [normalizeStyle]

theorem normalizeStyle_name (legal : style ∈ language.styles) :
    language.normalizeStyle (.string style.name) = .ok style :=
  normalizeStyle_eq_ok_iff.mpr ⟨style.name, rfl, legal, style.askedName_name⟩

/-- A value that is refused is reported as it was given. -/
theorem normalizeStyle_eq_error {value : Json} {error : Error}
    (refused : language.normalizeStyle value = .error error) :
    error = .styleNotText language value ∨
      ∃ given, value = .string given ∧ error = .unknownStyle language given := by
  unfold normalizeStyle at refused
  split at refused
  next given =>
    split at refused
    · cases refused
    · exact .inr ⟨given, rfl, (Except.error.inj refused).symm⟩
  · exact .inl (Except.error.inj refused).symm

end Language

namespace Options

variable {language : Language} {options checked : Options}

/-- Options that are checked take the name of the style that their own one is normalized to. -/
theorem validatedFor_eq (options : Options) (language : Language) :
    options.validatedFor language =
      (language.normalizeStyle options.serializationStyle).map fun style =>
        options.set (.string style.name) .serializationStyle := by
  unfold validatedFor
  cases language.normalizeStyle options.serializationStyle <;> rfl

/-- Options are valid when their style is normalized, and then nothing but the style changes. -/
theorem validatedFor_eq_ok_iff :
    options.validatedFor language = .ok checked ↔
      ∃ style, language.normalizeStyle options.serializationStyle = .ok style ∧
        checked = options.set (.string style.name) .serializationStyle := by
  rw [validatedFor_eq]
  cases language.normalizeStyle options.serializationStyle with
  | error error => simp [Except.map]
  | ok style => simp [Except.map, eq_comm]

/-- The name of a checked style is that of a style of the language. -/
theorem exists_of_validatedFor (valid : options.validatedFor language = .ok checked) :
    ∃ style ∈ language.styles, checked = options.set (.string style.name) .serializationStyle := by
  obtain ⟨style, normalized, rfl⟩ := validatedFor_eq_ok_iff.mp valid
  obtain ⟨_, _, legal, _⟩ := Language.normalizeStyle_eq_ok_iff.mp normalized
  exact ⟨style, legal, rfl⟩

theorem validatedFor_of_validatedFor (valid : options.validatedFor language = .ok checked) :
    checked.validatedFor language = .ok checked := by
  obtain ⟨style, legal, rfl⟩ := exists_of_validatedFor valid
  exact validatedFor_eq_ok_iff.mpr ⟨style, Language.normalizeStyle_name legal, rfl⟩

/-- Valid options are the checked ones already exactly when they give a style by its name. -/
theorem checked_eq_self_iff (valid : options.validatedFor language = .ok checked) :
    checked = options ↔ ∃ style : Style, options.serializationStyle = .string style.name := by
  obtain ⟨style, normalized, rfl⟩ := validatedFor_eq_ok_iff.mp valid
  obtain ⟨given, isGiven, _, asked⟩ := Language.normalizeStyle_eq_ok_iff.mp normalized
  constructor
  · intro same
    exact ⟨style, congrArg serializationStyle same.symm⟩
  · rintro ⟨named, isNamed⟩
    obtain rfl : given = named.name := Json.string.inj (isGiven.symm.trans isNamed)
    rw [Style.askedName_name] at asked
    rw [← asked, ← isGiven]
    rfl

end Options

/-- A language normalizes styles when a value is accepted for a style exactly if it is a text that
asks for the name of the style, letter by letter, and the style is one of the language. Any other
value is reported as it was given. The name of an accepted style is normalized to the style. The
check of options returns new ones that differ in nothing but the style, which then has its name, so
they stay as they are when they are checked again. -/
structure Language.NormalizesStyles (language : Language) : Prop where
  accepted : ∀ value style, language.normalizeStyle value = .ok style ↔
    ∃ given, value = .string given ∧ style ∈ language.styles ∧ Style.askedName given = style.name
  spelled : ∀ given (style : Style), Style.askedName given = style.name ↔
    List.Forall₂ Unicode.Spells (((Style.ofLabel? given).map Style.name).getD given).toList
      style.name.toList
  refused : ∀ value error, language.normalizeStyle value = .error error →
    error = .styleNotText language value ∨
      ∃ given, value = .string given ∧ error = .unknownStyle language given
  fixed : ∀ value style, language.normalizeStyle value = .ok style →
    style ∈ language.styles ∧ language.normalizeStyle (.string style.name) = .ok style
  valid : ∀ options checked : Options, options.validatedFor language = .ok checked ↔
    ∃ style, language.normalizeStyle options.serializationStyle = .ok style ∧
      checked = { options with serializationStyle := .string style.name }
  invalid : ∀ (options : Options) error, options.validatedFor language = .error error ↔
    language.normalizeStyle options.serializationStyle = .error error
  kept : ∀ options checked : Options, options.validatedFor language = .ok checked →
    ∀ option : OptionName, option ≠ .serializationStyle → checked.get option = options.get option
  same : ∀ options checked : Options, options.validatedFor language = .ok checked →
    (checked = options ↔ ∃ style : Style, options.serializationStyle = .string style.name)
  idempotent : ∀ options checked : Options, options.validatedFor language = .ok checked →
    checked.validatedFor language = .ok checked

/-- Every language normalizes styles. -/
theorem Language.normalizes_styles (language : Language) : language.NormalizesStyles where
  accepted _ _ := normalizeStyle_eq_ok_iff
  spelled _ _ := Style.lower_eq_name_iff
  refused _ _ := normalizeStyle_eq_error
  fixed value style normalized := by
    obtain ⟨_, _, legal, _⟩ := normalizeStyle_eq_ok_iff.mp normalized
    exact ⟨legal, normalizeStyle_name legal⟩
  valid _ _ := Options.validatedFor_eq_ok_iff
  invalid options error := by
    rw [Options.validatedFor_eq]
    cases language.normalizeStyle options.serializationStyle <;> simp [Except.map]
  kept options checked valid option other := by
    obtain ⟨style, _, rfl⟩ := Options.exists_of_validatedFor valid
    rw [Options.get_set, if_neg other]
  same _ _ := Options.checked_eq_self_iff
  idempotent _ _ := Options.validatedFor_of_validatedFor

/-- A label is exact, and a name may be given in capitals, the sign for kelvins among them. -/
example :
    Language.kotlin.normalizeStyle (.string "@Serializable") = .ok .kotlinxSerialization ∧
      Language.kotlin.normalizeStyle (.string "\u212AotlinX-serialization") =
        .ok .kotlinxSerialization ∧
      Language.kotlin.normalizeStyle (.string "@serializable") =
        .error (.unknownStyle .kotlin "@serializable") ∧
      Language.dart.normalizeStyle (.string "Jackson") = .error (.unknownStyle .dart "Jackson") :=
  ⟨rfl, rfl, rfl, rfl⟩

end Exemplar
