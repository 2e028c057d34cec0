import Exemplar.Proofs.StringLiterals

/-
Literals on one line. The grammar of a language says which texts are string literals and what they
denote. The emission escapes the quote, the backslash and the dollar sign and nothing else, so the
literal of a text is legal exactly when the text has no line break, and then it denotes the text.
-/

namespace Exemplar

namespace Literal

def codeOf? (digits : List Char) : Option Nat :=
  digits.foldlM (fun code digit => (Json.hexDigit? digit).map (code * 16 + ·)) 0

/-- Four digits after a `u` stand for the character of their code, and the escapes of a leading and
a trailing surrogate stand for one character together. -/
inductive CodeUnits : List Char → Char → Prop where
  | single {digits : List Char} {character : Char} (four : digits.length = 4)
      (code : codeOf? digits = some character.toNat) : CodeUnits ('u' :: digits) character
  | pair {high low : List Char} {leading trailing : Nat} {character : Char}
      (four : high.length = 4 ∧ low.length = 4)
      (codes : codeOf? high = some leading ∧ codeOf? low = some trailing)
      (isLeading : 0xD800 ≤ leading ∧ leading < 0xDC00)
      (isTrailing : 0xDC00 ≤ trailing ∧ trailing < 0xE000)
      (code : character.toNat = 0x10000 + (leading - 0xD800) * 0x400 + (trailing - 0xDC00)) :
      CodeUnits ('u' :: (high ++ '\\' :: 'u' :: low)) character

/-- A grammar of literals has a quote and says which characters after a backslash stand for which
character. A backslash, the quote and a dollar sign stand for themselves after a backslash. -/
structure Grammar where
  quote : Char
  Escapes : List Char → Char → Prop
  quote_notMem : quote ∉ ['\\', '$', '\n', '\r']
  not_escapes_nil : ∀ character, ¬ Escapes [] character
  escapes_special_iff : ∀ special ∈ ['\\', quote, '$'], ∀ rest character,
    Escapes (special :: rest) character ↔ rest = [] ∧ character = special

namespace Grammar

/-- The characters after an opening quote denote a text. A character stands for itself unless it is
the quote, a backslash, a dollar sign or a line break, an escape stands for its character, and the
closing quote is the last character. -/
inductive Body (grammar : Grammar) : List Char → List Char → Prop where
  | close : Body grammar [grammar.quote] []
  | plain {character : Char} {rest text : List Char} (notQuote : character ≠ grammar.quote)
      (notSpecial : character ∉ ['\\', '$', '\n', '\r']) (body : Body grammar rest text) :
      Body grammar (character :: rest) (character :: text)
  | escape {escape rest text : List Char} {character : Char}
      (escapes : grammar.Escapes escape character) (body : Body grammar rest text) :
      Body grammar ('\\' :: (escape ++ rest)) (character :: text)

/-- A literal denotes a text when it is an opening quote and a body of the text. -/
def Denotes (grammar : Grammar) (literal text : String) : Prop :=
  ∃ body, literal.toList = grammar.quote :: body ∧ grammar.Body body text.toList

end Grammar

/-- A line has no line feeds and no carriage returns. -/
def IsLine (text : List Char) : Prop :=
  '\n' ∉ text ∧ '\r' ∉ text

instance : DecidablePred IsLine := fun _ => inferInstanceAs (Decidable (_ ∧ _))

/-- A text is one line when its first character breaks no line and the others are one line. -/
theorem isLine_cons_iff {character : Char} {text : List Char} :
    IsLine (character :: text) ↔ character ∉ ['\n', '\r'] ∧ IsLine text := by
  simp only [IsLine, List.mem_cons, List.not_mem_nil, or_false, not_or, eq_comm (a := character)]
  exact and_and_and_comm

namespace Grammar

variable {grammar : Grammar} {rest text : List Char}

/-- The quote alone denotes nothing but the empty text. -/
theorem body_quote_iff : grammar.Body [grammar.quote] text ↔ text = [] := by
  constructor
  · intro body
    generalize written : [grammar.quote] = quote at body
    cases body with
    | close => rfl
    | plain notQuote => exact absurd (List.cons.inj written).1.symm notQuote
    | escape =>
        have isBackslash := (List.cons.inj written).1
        exact absurd (isBackslash ▸ List.mem_cons_self) grammar.quote_notMem
  · rintro rfl
    exact .close

/-- A special character after a backslash denotes itself. -/
theorem body_special_iff {special : Char} (isSpecial : special ∈ ['\\', grammar.quote, '$']) :
    grammar.Body ('\\' :: special :: rest) text ↔
      ∃ later, text = special :: later ∧ grammar.Body rest later := by
  constructor
  · intro body
    generalize written : '\\' :: special :: rest = characters at body
    cases body with
    | close => simp at written
    | plain _ notSpecial =>
        exact absurd ((List.cons.inj written).1 ▸ List.mem_cons_self) notSpecial
    | @escape escape after later character escapes body =>
        have same := (List.cons.inj written).2
        cases escape with
        | nil => exact absurd escapes (grammar.not_escapes_nil _)
        | cons first more =>
            obtain ⟨rfl, after⟩ := List.cons.inj same
            obtain ⟨rfl, rfl⟩ := (grammar.escapes_special_iff _ isSpecial _ _).mp escapes
            exact ⟨later, rfl, after ▸ body⟩
  · rintro ⟨later, rfl, body⟩
    exact .escape ((grammar.escapes_special_iff _ isSpecial _ _).mpr ⟨rfl, rfl⟩) body

/-- A character that is not special denotes itself unless it breaks the line. -/
theorem body_plain_iff {character : Char} (plain : character ∉ ['\\', grammar.quote, '$']) :
    grammar.Body (character :: rest) text ↔
      character ∉ ['\n', '\r'] ∧ ∃ later, text = character :: later ∧ grammar.Body rest later := by
  simp only [List.mem_cons, List.not_mem_nil, or_false, not_or] at plain ⊢
  obtain ⟨notBackslash, notQuote, notDollar⟩ := plain
  constructor
  · intro body
    generalize written : character :: rest = characters at body
    cases body with
    | close => exact absurd (List.cons.inj written).1 notQuote
    | plain _ notSpecial body =>
        obtain ⟨rfl, rfl⟩ := List.cons.inj written
        simp only [List.mem_cons, List.not_mem_nil, or_false, not_or] at notSpecial
        exact ⟨notSpecial.2.2, _, rfl, body⟩
    | escape => exact absurd (List.cons.inj written).1 notBackslash
  · rintro ⟨noBreak, later, rfl, body⟩
    exact .plain notQuote (by simp [notBackslash, notDollar, noBreak]) body

/-- A written character denotes itself unless it breaks the line. -/
theorem body_quotedCharacter_iff (character : Char) :
    grammar.Body (quotedCharacter grammar.quote character ++ rest) text ↔
      character ∉ ['\n', '\r'] ∧ ∃ later, text = character :: later ∧ grammar.Body rest later := by
  have unquoted := grammar.quote_notMem
  simp only [List.mem_cons, List.not_mem_nil, or_false, not_or] at unquoted
  unfold quotedCharacter
  split
  next special =>
    have noBreak : character ∉ ['\n', '\r'] := by
      rcases special with rfl | rfl | rfl
      · decide
      · simp [unquoted]
      · decide
    have isSpecial : character ∈ ['\\', grammar.quote, '$'] := by simpa using special
    rw [and_iff_right noBreak]
    exact body_special_iff isSpecial
  next plain => exact body_plain_iff (by simpa using plain)

/-- The written characters of a text denote the text alone, and only if it is one line. -/
theorem body_quoted_iff (written text : List Char) :
    grammar.Body (written.flatMap (quotedCharacter grammar.quote) ++ [grammar.quote]) text ↔
      text = written ∧ IsLine written := by
  induction written generalizing text with
  | nil =>
      have line : IsLine [] := by decide
      rw [List.flatMap_nil, List.nil_append, body_quote_iff, and_iff_left line]
  | cons first later inductionHypothesis =>
      simp only [List.flatMap_cons, List.append_assoc, body_quotedCharacter_iff,
        inductionHypothesis, isLine_cons_iff]
      constructor
      · rintro ⟨noBreak, _, rfl, rfl, line⟩
        exact ⟨rfl, noBreak, line⟩
      · rintro ⟨rfl, noBreak, line⟩
        exact ⟨noBreak, later, rfl, rfl, line⟩

/-- The literal of a text denotes the text alone, and only if the text is one line. -/
theorem denotes_quoted_iff (written text : String) :
    grammar.Denotes (quoted grammar.quote written) text ↔
      text = written ∧ IsLine written.toList := by
  have unquoted := grammar.quote_notMem
  simp only [List.mem_cons, List.not_mem_nil, or_false, not_or] at unquoted
  rw [Denotes, quoted_eq unquoted.1 unquoted.2.1, String.toList_ofList, ← String.toList_inj,
    ← body_quoted_iff]
  constructor
  · rintro ⟨body, same, denotes⟩
    exact (List.cons.inj same).2 ▸ denotes
  · intro denotes
    exact ⟨_, rfl, denotes⟩

/-- The literal of a text with a line break denotes nothing. -/
theorem not_exists_denotes_quoted (grammar : Grammar) {written : String}
    (broken : ¬ IsLine written.toList) :
    ¬ ∃ text, grammar.Denotes (quoted grammar.quote written) text := by
  rintro ⟨text, denotes⟩
  exact broken ((denotes_quoted_iff written text).mp denotes).2

end Grammar

end Literal

namespace Dart

/-- These letters after a backslash stand for control characters. -/
def controlEscapes : List (Char × Char) :=
  [('n', '\n'), ('r', '\r'), ('f', '\x0c'), ('b', '\x08'), ('t', '\t'), ('v', '\x0b')]

/-- A character may be written by a letter or by its code, and all characters but these letters and
line breaks may be written as they are. -/
inductive Escapes : List Char → Char → Prop where
  | control {letter character : Char} (listed : (letter, character) ∈ controlEscapes) :
      Escapes [letter] character
  | byte {digits : List Char} {character : Char} (two : digits.length = 2)
      (code : Literal.codeOf? digits = some character.toNat) : Escapes ('x' :: digits) character
  | units {written : List Char} {character : Char}
      (units : Literal.CodeUnits written character) : Escapes written character
  | point {digits : List Char} {character : Char} (few : 1 ≤ digits.length ∧ digits.length ≤ 6)
      (code : Literal.codeOf? digits = some character.toNat) :
      Escapes ('u' :: '\x7b' :: (digits ++ ['\x7d'])) character
  | itself {character : Char} (plain : character ∉ controlEscapes.map Prod.fst)
      (noCode : character ∉ ['x', 'u', '\n', '\r']) : Escapes [character] character

/-- This is the grammar of literals in single quotes. -/
def literalGrammar : Literal.Grammar where
  quote := '\''
  Escapes := Escapes
  quote_notMem := by decide
  not_escapes_nil character escapes := by
    cases escapes with
    | units units => cases units
  escapes_special_iff special isSpecial rest character := by
    simp only [List.mem_cons, List.not_mem_nil, or_false] at isSpecial
    constructor
    · intro escapes
      cases escapes with
      | control listed =>
          simp only [controlEscapes, List.mem_cons, Prod.mk.injEq, List.not_mem_nil,
            or_false] at listed
          rcases isSpecial with rfl | rfl | rfl <;> simp at listed
      | byte => simp at isSpecial
      | units units => cases units <;> simp at isSpecial
      | point => simp at isSpecial
      | itself => exact ⟨rfl, rfl⟩
    · rintro ⟨rfl, rfl⟩
      rcases isSpecial with rfl | rfl | rfl <;> exact .itself (by decide) (by decide)

end Dart

namespace Kotlin

/-- These letters after a backslash stand for control characters. -/
def controlEscapes : List (Char × Char) :=
  [('t', '\t'), ('b', '\x08'), ('n', '\n'), ('r', '\r')]

/-- A character may be written by a letter or by its code, and only the quotes, the backslash and
the dollar sign may be written as they are. -/
inductive Escapes : List Char → Char → Prop where
  | control {letter character : Char} (listed : (letter, character) ∈ controlEscapes) :
      Escapes [letter] character
  | units {written : List Char} {character : Char}
      (units : Literal.CodeUnits written character) : Escapes written character
  | itself {character : Char} (listed : character ∈ ['\'', '"', '\\', '$']) :
      Escapes [character] character

/-- This is the grammar of literals in double quotes. -/
def literalGrammar : Literal.Grammar where
  quote := '"'
  Escapes := Escapes
  quote_notMem := by decide
  not_escapes_nil character escapes := by
    cases escapes with
    | units units => cases units
  escapes_special_iff special isSpecial rest character := by
    simp only [List.mem_cons, List.not_mem_nil, or_false] at isSpecial
    constructor
    · intro escapes
      cases escapes with
      | control listed =>
          simp only [controlEscapes, List.mem_cons, Prod.mk.injEq, List.not_mem_nil,
            or_false] at listed
          rcases isSpecial with rfl | rfl | rfl <;> simp at listed
      | units units => cases units <;> simp at isSpecial
      | itself => exact ⟨rfl, rfl⟩
    · rintro ⟨rfl, rfl⟩
      rcases isSpecial with rfl | rfl | rfl <;> exact .itself (by decide)

end Kotlin

/-- In both languages the literal of a text denotes the text alone if it is one line, and otherwise
it is no literal at all. -/
theorem keyLiterals_denote_iff (key text : String) :
    (Dart.literalGrammar.Denotes (Dart.quoted key) text ↔
        text = key ∧ Literal.IsLine key.toList) ∧
      (Kotlin.literalGrammar.Denotes (Kotlin.quoted key) text ↔
        text = key ∧ Literal.IsLine key.toList) :=
  ⟨Literal.Grammar.denotes_quoted_iff key text, Literal.Grammar.denotes_quoted_iff key text⟩

/-- In neither language a key with a line break between its letters is written as a literal. -/
theorem brokenKey_denotes_nothing :
    (¬ ∃ text, Dart.literalGrammar.Denotes (Dart.quoted "a\nb") text) ∧
      ¬ ∃ text, Kotlin.literalGrammar.Denotes (Kotlin.quoted "a\nb") text := by
  have broken : ¬ Literal.IsLine "a\nb".toList := by decide
  exact ⟨Dart.literalGrammar.not_exists_denotes_quoted broken,
    Kotlin.literalGrammar.not_exists_denotes_quoted broken⟩

end Exemplar
