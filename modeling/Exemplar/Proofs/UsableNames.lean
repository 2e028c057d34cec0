import Exemplar.Proofs.NormalizedStyles
import Exemplar.Proofs.SeparatorRuns

namespace Exemplar

/-- These are the words that a language reserves, in TypeScript those of a module. -/
def Language.reservedWords : Language → List String
  | .typeScript =>
      ["await", "break", "case", "catch", "class", "const", "continue", "debugger", "default",
       "delete", "do", "else", "enum", "export", "extends", "false", "finally", "for", "function",
       "if", "implements", "import", "in", "instanceof", "interface", "let", "new", "null",
       "package", "private", "protected", "public", "return", "static", "super", "switch", "this",
       "throw", "true", "try", "typeof", "var", "void", "while", "with", "yield"]
  | .dart =>
      ["assert", "break", "case", "catch", "class", "const", "continue", "default", "do", "else",
       "enum", "extends", "false", "final", "finally", "for", "if", "in", "is", "new", "null",
       "rethrow", "return", "super", "switch", "this", "throw", "true", "try", "var", "void",
       "while", "with"]
  | .kotlin =>
      ["as", "break", "class", "continue", "do", "else", "false", "for", "fun", "if", "in",
       "interface", "is", "null", "object", "package", "return", "super", "this", "throw", "true",
       "try", "typealias", "typeof", "val", "var", "when", "while"]

/-- Reserved words have letters, and all of them are small. -/
theorem Language.isSmallLatin_of_mem_reservedWords (language : Language) :
    ∀ word ∈ language.reservedWords,
      word.toList ≠ [] ∧ ∀ letter ∈ word.toList, Unicode.IsSmallLatin letter := by
  have checked : language.reservedWords.all fun word =>
      word.toList ≠ [] ∧ word.toList.all (Unicode.IsSmallLatin ·) := by
    cases language <;> decide +kernel
  simpa using checked

namespace Naming

/-- An identifier starts with a letter or a low line and goes on with characters of a word. -/
def isIdentifierText : List Char → Bool
  | [] => false
  | first :: rest => (first.isAlpha || first == '_') && rest.all isWordCharacter

/-- An identifier is an ASCII letter or a low line, followed by ASCII letters, digits and low
lines. -/
def IsIdentifier (name : String) : Prop :=
  isIdentifierText name.toList = true

instance (name : String) : Decidable (IsIdentifier name) :=
  inferInstanceAs (Decidable (_ = true))

/-- A character that starts identifiers is one of a word, and its small form is an identifier. -/
theorem form_of_starts {first : Char} (starts : (first.isAlpha || first == '_') = true) :
    isWordCharacter first = true ∧ isIdentifierText (Unicode.lowerForm first) = true := by
  have word : isWordCharacter first = true := by
    rcases Bool.or_eq_true_iff.mp starts with letter | lowLine
    · exact isWordCharacter_of_isAlpha letter
    · rw [isWordCharacter, lowLine, Bool.or_true]
  refine ⟨word, ?_⟩
  obtain ⟨code, isAscii, rfl⟩ := exists_ascii_of_isWordCharacter word
  revert code
  decide +kernel

theorem exists_cons_of_isIdentifierText {text : List Char}
    (identifier : isIdentifierText text = true) :
    ∃ first rest, text = first :: rest ∧ (first.isAlpha || first == '_') = true ∧
      rest.all isWordCharacter = true := by
  cases text with
  | nil => cases identifier
  | cons first rest => exact ⟨first, rest, rfl, Bool.and_eq_true_iff.mp identifier⟩

theorem isIdentifierText_append {text later : List Char} (identifier : isIdentifierText text = true)
    (word : later.all isWordCharacter = true) : isIdentifierText (text ++ later) = true := by
  obtain ⟨first, rest, rfl, starts, within⟩ := exists_cons_of_isIdentifierText identifier
  rw [List.cons_append, isIdentifierText, starts, List.all_append, within, word]
  rfl

theorem isIdentifier_camelCase {key : String} (identifier : IsIdentifier key) :
    IsIdentifier (camelCase key) := by
  obtain ⟨first, rest, characters, starts, word⟩ := exists_cons_of_isIdentifierText identifier
  rw [IsIdentifier, camelCase, String.toList_ofList, characters, camel]
  exact isIdentifierText_append (form_of_starts starts).2 (all_collapseSeparators word)

/-- A small letter is no separator. -/
theorem isSeparator_of_isSmallLatin {letter : Char} (small : Unicode.IsSmallLatin letter) :
    isSeparator letter = false := by
  rw [← Bool.not_eq_true]
  intro separates
  rcases Bool.or_eq_true_iff.mp separates with lowLine | hyphen
  · exact absurd (eq_of_beq lowLine ▸ small) (by decide)
  · exact absurd (eq_of_beq hyphen ▸ small) (by decide)

/-- A deleted separator leaves a capital, so a text has all its characters if only small letters
are left of it. -/
theorem collapseSeparators_eq_self {text : List Char}
    (small : ∀ letter ∈ collapseSeparators text, Unicode.IsSmallLatin letter) :
    collapseSeparators text = text := by
  induction text using collapseSeparators.induct with
  | case1 separator next rest deleted inductionHypothesis =>
      rw [collapseSeparators, if_pos deleted] at small
      obtain ⟨started, capital⟩ := Unicode.upperForm_capital next
      obtain ⟨form, member⟩ := List.exists_mem_of_ne_nil _ started
      exact absurd (small form (List.mem_append_left _ member)) (capital form member)
  | case2 separator next rest kept inductionHypothesis =>
      rw [collapseSeparators, if_neg kept] at small ⊢
      rw [inductionHypothesis (List.forall_mem_cons.mp small).2]
  | case3 last => rfl
  | case4 => rfl

/-- A key gives a text of small letters in camelCase exactly when it spells the first letter and has
the others as they are. -/
theorem camel_eq_iff {text tail : List Char} {letter : Char}
    (small : ∀ character ∈ letter :: tail, Unicode.IsSmallLatin character) :
    camel text = letter :: tail ↔ ∃ first, text = first :: tail ∧ Unicode.Spells first letter := by
  constructor
  · intro written
    cases text with
    | nil => cases written
    | cons first rest =>
        rw [← written, camel, List.forall_mem_append] at small
        obtain ⟨formSmall, restSmall⟩ := small
        obtain ⟨form, isForm, spells⟩ :=
          Unicode.lowerForm_of_isNameCharacter fun form member => .inl (formSmall form member)
        rw [camel, collapseSeparators_eq_self restSmall, isForm] at written
        obtain ⟨rfl, rfl⟩ := List.cons.inj written
        exact ⟨first, rfl, spells⟩
  · rintro ⟨first, rfl, spells⟩
    obtain ⟨letterSmall, tailSmall⟩ := List.forall_mem_cons.mp small
    have plain : ∀ character ∈ tail, isSeparator character = false :=
      fun character member => isSeparator_of_isSmallLatin (tailSmall character member)
    have kept := collapseSeparators_append plain []
    rw [List.append_nil] at kept
    rw [camel, (Unicode.lowerForm_of_spells (.inl letterSmall) spells).2, kept]
    simp [collapseSeparators]

/-- An identifier gives a word of small letters in camelCase exactly when it is the word, with or
without a capital. -/
theorem camelCase_eq_iff {key word : String} (identifier : IsIdentifier key)
    (started : word.toList ≠ [])
    (small : ∀ letter ∈ word.toList, Unicode.IsSmallLatin letter) :
    camelCase key = word ↔ key = word ∨ key = String.ofList (capitalized word.toList) := by
  obtain ⟨first, rest, characters, starts, _⟩ := exists_cons_of_isIdentifierText identifier
  obtain ⟨letter, tail, spelling⟩ := List.exists_cons_of_ne_nil started
  have noSign : first ≠ '\u212A' := by
    rintro rfl
    exact absurd starts (by decide)
  rw [spelling] at small
  simp only [← String.toList_inj, camelCase, String.toList_ofList, spelling, camel_eq_iff small]
  rw [characters]
  constructor
  · rintro ⟨_, same, spells⟩
    obtain ⟨rfl, rfl⟩ := List.cons.inj same
    rcases spells with small | capital | ⟨sign, _⟩
    · exact .inl (congrArg (· :: rest) small)
    · exact .inr (congrArg (· :: rest) capital)
    · exact absurd sign noSign
  · rintro (same | capital)
    · exact ⟨letter, same, .inl rfl⟩
    · exact ⟨letter.toUpper, capital, .inr (.inl rfl)⟩

/-- A usable key is an identifier in camelCase, and it becomes a reserved word exactly when it is
that word with a capital. -/
theorem camelCase_usable (language : Language) {key : String} (identifier : IsIdentifier key)
    (free : key ∉ language.reservedWords) :
    IsIdentifier (camelCase key) ∧
      ∀ word ∈ language.reservedWords,
        camelCase key = word ↔ key = String.ofList (capitalized word.toList) := by
  refine ⟨isIdentifier_camelCase identifier, fun word reserved => ?_⟩
  obtain ⟨started, small⟩ := language.isSmallLatin_of_mem_reservedWords word reserved
  rw [camelCase_eq_iff identifier started small]
  refine or_iff_right ?_
  rintro rfl
  exact free reserved

/-- The key `Final` is usable in Dart, and in camelCase it is a reserved word. -/
theorem final_camelCase_usable :
    IsIdentifier "Final" ∧ "Final" ∉ Language.dart.reservedWords ∧
      IsIdentifier (camelCase "Final") ∧
      ∀ word ∈ Language.dart.reservedWords,
        camelCase "Final" = word ↔ "Final" = String.ofList (capitalized word.toList) := by
  have identifier : IsIdentifier "Final" := by decide
  have free : "Final" ∉ Language.dart.reservedWords := by decide
  exact ⟨identifier, free, camelCase_usable .dart identifier free⟩

/-- The key `Class` is usable in every language, but in camelCase it is reserved in every one. -/
theorem capitalClass_becomes_reserved :
    IsIdentifier "Class" ∧ camelCase "Class" = "class" ∧
      ∀ language : Language,
        "Class" ∉ language.reservedWords ∧ camelCase "Class" ∈ language.reservedWords := by
  have written : camelCase "Class" = "class" := by decide +kernel
  refine ⟨by decide, written, fun language => ?_⟩
  rw [written]
  cases language <;> decide

end Naming

end Exemplar
