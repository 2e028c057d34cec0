import Exemplar.Proofs.Outline
import Exemplar.Proofs.StringLiterals

/-
Legible types. The text of a declared type has no character that ends it in a declaration, so the
type is read back from the text that follows the name of its field. Types are legible in every
language when the models that they name have plain names.
-/

namespace Exemplar

open Naming

def isTypeCharacter (character : Char) : Bool :=
  isWordCharacter character || "<>[]?, ".toList.contains character

/-- A gap separates a type from what follows it. -/
def isGap (character : Char) : Bool :=
  character == ' ' || character == ','

/-- A declaration stops before an initial value or at its end. -/
def isStop (character : Char) : Bool :=
  character == '=' || character == ';'

/-- A legible text starts with a character of a word, goes on with characters of types, and does not
end in a gap. -/
def isLegible (text : List Char) : Bool :=
  text.head?.any isWordCharacter && text.all isTypeCharacter &&
    text.getLast?.any fun character => !isGap character

def trimGaps (text : List Char) : List Char :=
  (text.reverse.dropWhile isGap).reverse

/-- A declared type ends before an initial value or at the end of the declaration. -/
def declaredType (text : List Char) : List Char :=
  trimGaps (text.takeWhile fun character => !isStop character)

/-- A character of a type neither stops a declaration nor opens a parameter list, and it is no line
feed. -/
theorem isTypeCharacter_apart {character : Char} (typed : isTypeCharacter character = true) :
    isStop character = false ∧ character ≠ '(' ∧ character ≠ '\n' := by
  have apart (other : Char) (untyped : isTypeCharacter other = false) : character ≠ other := by
    rintro rfl
    rw [typed] at untyped
    cases untyped
  refine ⟨?_, apart '(' (by decide), apart '\n' (by decide)⟩
  rw [isStop, Bool.or_eq_false_iff, beq_eq_false_iff_ne, beq_eq_false_iff_ne]
  exact ⟨apart '=' (by decide), apart ';' (by decide)⟩

theorem isGap_iff {character : Char} :
    isGap character = true ↔ character = ' ' ∨ character = ',' := by
  rw [isGap, Bool.or_eq_true, beq_iff_eq, beq_iff_eq]

/-- A character of a word is a character of types and no gap. -/
theorem isTypeCharacter_of_isWordCharacter {character : Char}
    (word : isWordCharacter character = true) :
    isTypeCharacter character = true ∧ isGap character = false := by
  refine ⟨by simp [isTypeCharacter, word], ?_⟩
  rw [← Bool.not_eq_true, isGap_iff]
  rintro (rfl | rfl) <;> exact absurd word (by decide)

/-- A legible text has a first character of a word, characters of types, and a last one that is no
gap. -/
theorem isLegible_iff {text : List Char} :
    isLegible text = true ↔
      (∃ first rest, text = first :: rest ∧ isWordCharacter first = true) ∧
        text.all isTypeCharacter = true ∧
        ∃ earlier last, text = earlier ++ [last] ∧ isGap last = false := by
  simp only [isLegible, Bool.and_eq_true, Option.any_eq_true, List.head?_eq_some_iff,
    List.getLast?_eq_some_iff, Bool.not_eq_true', and_assoc]
  constructor
  · rintro ⟨⟨first, ⟨rest, starts⟩, word⟩, typed, last, ⟨earlier, ends⟩, noGap⟩
    exact ⟨⟨first, rest, starts, word⟩, typed, earlier, last, ends, noGap⟩
  · rintro ⟨⟨first, rest, starts, word⟩, typed, earlier, last, ends, noGap⟩
    exact ⟨⟨first, ⟨rest, starts⟩, word⟩, typed, last, ⟨earlier, ends⟩, noGap⟩

/-- A plain text is legible. -/
theorem isLegible_of_isPlainText {text : List Char} (plain : isPlainText text = true) :
    isLegible text = true := by
  have word := List.all_eq_true.mp (all_of_isPlainText plain)
  obtain ⟨first, rest, rfl, letter, _⟩ := exists_cons_of_isPlainText plain
  obtain ⟨earlier, last, ends⟩ :=
    (List.eq_nil_or_concat' _).resolve_left (List.cons_ne_nil first rest)
  refine isLegible_iff.mpr ⟨⟨first, rest, rfl, isWordCharacter_of_isAlpha letter⟩, ?_,
    earlier, last, ends, (isTypeCharacter_of_isWordCharacter (word last (by simp [ends]))).2⟩
  rw [List.all_eq_true]
  exact fun character member => (isTypeCharacter_of_isWordCharacter (word character member)).1

/-- A legible text may go on with characters of types up to one that is no gap. -/
theorem isLegible_append {text later : List Char} (legible : isLegible text = true)
    (typed : later.all isTypeCharacter = true)
    (ended : ∃ earlier last, later = earlier ++ [last] ∧ isGap last = false) :
    isLegible (text ++ later) = true := by
  obtain ⟨⟨first, rest, rfl, word⟩, typedText, _⟩ := isLegible_iff.mp legible
  obtain ⟨earlier, last, rfl, noGap⟩ := ended
  refine isLegible_iff.mpr ⟨⟨first, rest ++ (earlier ++ [last]), rfl, word⟩, ?_,
    first :: rest ++ earlier, last, by simp, noGap⟩
  rw [List.all_append, typedText, typed]
  rfl

/-- The gaps after a legible text are removed. -/
theorem trimGaps_append {text gaps : List Char} (legible : isLegible text = true)
    (gap : gaps.all isGap = true) : trimGaps (text ++ gaps) = text := by
  obtain ⟨_, _, earlier, last, rfl, noGap⟩ := isLegible_iff.mp legible
  have skips : ∀ character ∈ gaps.reverse, isGap character = true := by simpa using gap
  rw [trimGaps, List.reverse_append, List.dropWhile_append_of_pos skips, List.reverse_append,
    List.reverse_singleton, List.singleton_append, List.dropWhile_cons_of_neg (by simp [noGap])]
  simp

/-- A legible type is read back before gaps and the end of its declaration. -/
theorem declaredType_append {type gaps rest : List Char} (legible : isLegible type = true)
    (gap : gaps.all isGap = true) (stopped : rest.head?.all isStop = true) :
    declaredType (type ++ (gaps ++ rest)) = type := by
  obtain ⟨_, typed, _⟩ := isLegible_iff.mp legible
  have within : (type ++ gaps).all (fun character => !isStop character) = true := by
    rw [List.all_eq_true] at typed gap ⊢
    intro character member
    rcases List.mem_append.mp member with inType | inGaps
    · rw [(isTypeCharacter_apart (typed character inType)).1]
      rfl
    · rcases isGap_iff.mp (gap character inGaps) with rfl | rfl <;> rfl
  have ended : rest.head?.all (fun character => !!isStop character) = true := by
    simpa only [Bool.not_not] using stopped
  rw [declaredType, ← List.append_assoc, (span_append within ended).1, trimGaps_append legible gap]

/-- After its type a declaration has a gap or none, and then it stops or ends. -/
theorem exists_gaps (value : Option String) {ending : String} (ends : ending ∈ ["", ",", ";"]) :
    ∃ gaps rest, (assigned value ++ ending).toList = gaps ++ rest ∧ gaps.all isGap = true ∧
      rest.head?.all isStop = true := by
  cases value with
  | none =>
      simp only [List.mem_cons, List.not_mem_nil, or_false] at ends
      rcases ends with rfl | rfl | rfl
      · exact ⟨[], [], rfl, rfl, rfl⟩
      · exact ⟨[','], [], rfl, rfl, rfl⟩
      · exact ⟨[], [';'], rfl, rfl, rfl⟩
  | some value =>
      exact ⟨[' '], '=' :: ' ' :: (value.toList ++ ending.toList), by simp [assigned], rfl, rfl⟩

/-- A legible type is read back from its declaration, whatever value is assigned. -/
theorem declaredType_declaration {type : String} (legible : isLegible type.toList = true)
    (value : Option String) {ending : String} (ends : ending ∈ ["", ",", ";"]) :
    declaredType (type ++ (assigned value ++ ending)).toList = type.toList := by
  obtain ⟨gaps, rest, parted, gap, stopped⟩ := exists_gaps value ends
  rw [String.toList_append, parted, declaredType_append legible gap stopped]

/-- A dialect is legible when its types are legible whenever those of their items are. -/
structure Dialect.Legible (dialect : Dialect) : Prop where
  primitive : ∀ type, isLegible (dialect.primitive type).toList = true
  dynamic : isLegible dialect.dynamic.toList = true
  object : isLegible dialect.object.toList = true
  list : ∀ item : String, isLegible item.toList = true →
    isLegible (dialect.list item).toList = true

/-- A legible dialect spells legible types when the known models have plain names. -/
theorem Dialect.Legible.type {dialect : Dialect} (legible : dialect.Legible) {known : NameSet}
    (plain : ∀ name ∈ known, IsPlain name) (shape : Shape) :
    isLegible (dialect.type (shape.resolve known)).toList = true := by
  induction shape with
  | primitive type => exact legible.primitive type
  | dynamic => exact legible.dynamic
  | list item inductionHypothesis => exact legible.list _ inductionHypothesis
  | reference model =>
      rw [Shape.resolve]
      split
      next member => exact isLegible_of_isPlainText (plain model member)
      next => exact legible.object

/-- The dialect of every language is legible. -/
theorem Language.legible_dialect (language : Language) : language.dialect.Legible where
  primitive type := by cases language <;> cases type <;> decide
  dynamic := by cases language <;> decide
  object := by cases language <;> decide
  list := by
    intro item legible
    obtain ⟨_, typed, _⟩ := isLegible_iff.mp legible
    have bracketed : (item.toList ++ ">".toList).all isTypeCharacter = true := by
      rw [List.all_append, typed]
      decide
    have listed : isLegible ("List<".toList ++ item.toList ++ ">".toList) = true := by
      rw [List.append_assoc]
      exact isLegible_append (by decide) bracketed ⟨item.toList, '>', by simp, by decide⟩
    cases language
    case typeScript =>
      simp only [Language.dialect, TypeScript.dialect, String.toList_append]
      exact isLegible_append legible (by decide) ⟨['['], ']', by decide, by decide⟩
    case dart => simpa only [Language.dialect, Dart.dialect, String.toList_append] using listed
    case kotlin => simpa only [Language.dialect, Kotlin.dialect, String.toList_append] using listed

theorem unbroken_of_isLegible {text : List Char} (legible : isLegible text = true) :
    '\n' ∉ text := by
  intro broken
  obtain ⟨_, typed, _⟩ := isLegible_iff.mp legible
  exact (isTypeCharacter_apart (List.all_eq_true.mp typed _ broken)).2.2 rfl

/-- The literals of a plain key are written on one line. -/
theorem unbroken_quoted {key : String} (plain : IsPlain key) :
    '\n' ∉ (Json.quoted key).toList ∧ '\n' ∉ (Dart.quoted key).toList ∧
      '\n' ∉ (Kotlin.quoted key).toList := by
  have unbroken : ∀ character ∈ key.toList, '\n' ∉ Json.quotedCharacter character ∧
      '\n' ∉ Literal.quotedCharacter '\'' character ∧
      '\n' ∉ Literal.quotedCharacter '"' character := by
    intro character member
    have word := List.all_eq_true.mp (all_of_isPlainText plain) character member
    clear member
    obtain ⟨code, isAscii, rfl⟩ := exists_ascii_of_isWordCharacter word
    revert code
    decide +kernel
  rw [Dart.quoted, Kotlin.quoted, Literal.quoted_eq (by decide) (by decide),
    Literal.quoted_eq (by decide) (by decide)]
  simp only [Json.quoted, String.toList_ofList, List.mem_cons, List.mem_append, List.mem_flatMap,
    List.not_mem_nil, or_false, not_or, not_exists, not_and]
  refine ⟨⟨by decide, ?_, by decide⟩, ⟨by decide, ?_, by decide⟩, ⟨by decide, ?_, by decide⟩⟩
  · exact fun character member => (unbroken character member).1
  · exact fun character member => (unbroken character member).2.1
  · exact fun character member => (unbroken character member).2.2

/-- An initial value is written on one line when the type of its field is. -/
theorem unbroken_initializer (language : Language) {type : FieldType} {value : Initializer}
    (unbroken : '\n' ∉ (language.dialect.type type).toList)
    (initial : type.initializer? = some value) :
    '\n' ∉ (language.dialect.initializer value).toList := by
  cases type with
  | dynamic => cases initial
  | model name =>
      cases initial
      have named : '\n' ∉ name.toList := unbroken
      cases language <;>
        simp [Language.dialect, TypeScript.dialect, Dart.dialect, Kotlin.dialect, named]
  | primitive type =>
      cases initial
      cases language <;> cases type <;> decide
  | object => cases initial; cases language <;> decide
  | list item => cases initial; cases language <;> decide

/-- An assigned initial value is written on one line when it is that of a type which is. -/
theorem unbroken_assigned (language : Language) {type : FieldType}
    {initializer : Option Initializer}
    (unbroken : '\n' ∉ (language.dialect.type type).toList)
    (initial : ∀ value ∈ initializer, type.initializer? = some value) :
    '\n' ∉ (assigned (initializer.map language.dialect.initializer)).toList := by
  cases initializer with
  | none => exact List.not_mem_nil
  | some value =>
      have valueUnbroken := unbroken_initializer language unbroken (initial value rfl)
      simp [assigned, valueUnbroken]

end Exemplar
