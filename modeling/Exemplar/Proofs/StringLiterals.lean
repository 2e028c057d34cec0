import Exemplar.Json.Parser
import Exemplar.Json.Quoted
import Exemplar.Source.Dart
import Exemplar.Source.Kotlin

/-
String literals. What a literal says is read back by the rules of its language: a JSON literal by
the parser for documents, and the other ones by a scan in which a backslash stands for the character
after it. Every text is recovered from the literal that is written for it.
-/

namespace Exemplar

namespace Unicode

theorem hexadecimal_one {digit : Nat} (small : digit < 16) :
    hexadecimal 1 digit = [digit.digitChar] := by
  simp [hexadecimal, Nat.toDigits_of_lt_base small]

/-- The last digit of a number is written after the others. -/
theorem hexadecimal_add_two (width code : Nat) :
    hexadecimal (width + 2) code =
      hexadecimal (width + 1) (code / 16) ++ [(code % 16).digitChar] := by
  by_cases small : code < 16
  · have noMore : code / 16 = 0 := Nat.div_eq_of_lt small
    simp [hexadecimal, Nat.toDigits_of_lt_base small, noMore, Nat.mod_eq_of_lt small,
      List.replicate_succ', Nat.digitChar]
  · have started : 0 < code / 16 := Nat.div_pos (Nat.le_of_not_lt small) (by decide)
    have digits : Nat.toDigits 16 code =
        Nat.toDigits 16 (code / 16) ++ [(code % 16).digitChar] := by
      have split := Nat.toDigits_append_toDigits (b := 16) (d := code % 16) (by decide) started
        (Nat.mod_lt _ (by decide))
      rw [Nat.toDigits_of_lt_base (Nat.mod_lt _ (by decide)), Nat.div_add_mod] at split
      exact split.symm
    simp [hexadecimal, digits]

theorem hexadecimal_four {unit : Nat} (small : unit < 0x10000) :
    hexadecimal 4 unit =
      [(unit / 16 / 16 / 16).digitChar, (unit / 16 / 16 % 16).digitChar,
        (unit / 16 % 16).digitChar, (unit % 16).digitChar] := by
  rw [hexadecimal_add_two, hexadecimal_add_two, hexadecimal_add_two,
    hexadecimal_one (by omega)]
  rfl

end Unicode

namespace Json

theorem hexDigit?_digitChar {digit : Nat} (small : digit < 16) :
    hexDigit? digit.digitChar = some digit := by
  have each : ∀ d : Fin 16, hexDigit? d.val.digitChar = some d.val := by decide
  exact each ⟨digit, small⟩

/-- No character is a surrogate. -/
theorem toNat_lt_or_surrogates (character : Char) :
    character.toNat < 0xD800 ∨ 0xDFFF < character.toNat ∧ character.toNat < 0x110000 :=
  character.valid

/-- The digits of a code unit are read as the unit. -/
theorem codeUnit?_hexadecimal {unit : Nat} (small : unit < 0x10000) (next : Char)
    (rest : List Char) :
    ∃ shorter, codeUnit? (Unicode.hexadecimal 4 unit ++ next :: rest) =
      some ⟨unit, next :: rest, shorter⟩ := by
  have first := hexDigit?_digitChar (show unit / 16 / 16 / 16 < 16 by omega)
  have second := hexDigit?_digitChar (show unit / 16 / 16 % 16 < 16 by omega)
  have third := hexDigit?_digitChar (show unit / 16 % 16 < 16 by omega)
  have fourth := hexDigit?_digitChar (show unit % 16 < 16 by omega)
  have value : ((unit / 16 / 16 / 16 * 16 + unit / 16 / 16 % 16) * 16 + unit / 16 % 16) * 16 +
      unit % 16 = unit := by omega
  rw [Unicode.hexadecimal_four small]
  refine ⟨by simp, ?_⟩
  simp only [List.cons_append, List.nil_append, codeUnit?, first, second, third, fourth,
    Option.bind_eq_bind, Option.bind_some, value]

/-- The escape of a character in the basic plane is read as the character. -/
theorem unicodeEscape_basic {character : Char} (basic : character.toNat < 0x10000) (next : Char)
    (rest : List Char) :
    ∃ shorter, unicodeEscape (Unicode.hexadecimal 4 character.toNat ++ next :: rest) =
      .ok ⟨character, next :: rest, shorter⟩ := by
  obtain ⟨shorter, unit⟩ := codeUnit?_hexadecimal basic next rest
  have valid := toNat_lt_or_surrogates character
  have noLeading : ¬ (0xD800 ≤ character.toNat ∧ character.toNat < 0xDC00) := by omega
  have noTrailing : ¬ (0xDC00 ≤ character.toNat ∧ character.toNat < 0xE000) := by omega
  refine ⟨shorter, ?_⟩
  simp only [unicodeEscape, unit, if_neg noLeading, if_neg noTrailing, Char.ofNat_toNat]

/-- The escapes of two surrogates are read as one character. -/
theorem unicodeEscape_pair {leading trailing : Nat}
    (isLeading : 0xD800 ≤ leading ∧ leading < 0xDC00)
    (isTrailing : 0xDC00 ≤ trailing ∧ trailing < 0xE000) (next : Char) (rest : List Char) :
    ∃ shorter,
      unicodeEscape (Unicode.hexadecimal 4 leading ++ unitEscape trailing ++ next :: rest) =
        .ok ⟨Char.ofNat (0x10000 + (leading - 0xD800) * 0x400 + (trailing - 0xDC00)),
          next :: rest, shorter⟩ := by
  obtain ⟨afterLeading, readLeading⟩ := codeUnit?_hexadecimal (show leading < 0x10000 by omega) '\\'
    ('u' :: (Unicode.hexadecimal 4 trailing ++ next :: rest))
  obtain ⟨afterTrailing, readTrailing⟩ := codeUnit?_hexadecimal (show trailing < 0x10000 by omega)
    next rest
  rw [List.append_assoc, unitEscape]
  refine ⟨?_, ?_⟩
  · simp only [List.length_append, List.length_cons] at afterLeading afterTrailing ⊢
    omega
  · simp only [List.cons_append, unicodeEscape, readLeading, trailingSurrogate, readTrailing,
      if_pos isLeading, if_pos isTrailing]
    rfl

variable {opening : Nat}

/-- A string goes on after a backslash and the character that it escapes. -/
theorem stringBody_simpleEscape {escaped character : Char} {text : List Char}
    {tail : Scanned (List Char) text} (simple : simpleEscape? escaped = some character)
    (read : stringBody opening text = .ok tail) :
    ∃ shorter, stringBody opening ('\\' :: escaped :: text) =
      .ok ⟨character :: tail.value, tail.rest, shorter⟩ := by
  have notUnit : escaped ≠ 'u' := by
    rintro rfl
    cases simple
  refine ⟨by have := tail.shorter; simp only [List.length_cons]; omega, ?_⟩
  simp [stringBody, simple, read, bind, Except.bind]

theorem stringBody_unicodeEscape {digits : List Char} {character : Scanned Char digits}
    {tail : Scanned (List Char) character.rest} (escape : unicodeEscape digits = .ok character)
    (read : stringBody opening character.rest = .ok tail) :
    ∃ shorter, stringBody opening ('\\' :: 'u' :: digits) =
      .ok ⟨character.value :: tail.value, tail.rest, shorter⟩ := by
  refine ⟨by have := tail.shorter; have := character.shorter; simp only [List.length_cons]; omega,
    ?_⟩
  simp [stringBody, escape, read, bind, Except.bind]

theorem stringBody_plain {character : Char} {text : List Char} {tail : Scanned (List Char) text}
    (noQuote : character ≠ '"') (noBackslash : character ≠ '\\') (noControl : ¬ character < ' ')
    (read : stringBody opening text = .ok tail) :
    ∃ shorter, stringBody opening (character :: text) =
      .ok ⟨character :: tail.value, tail.rest, shorter⟩ := by
  refine ⟨by have := tail.shorter; simp only [List.length_cons]; omega, ?_⟩
  rw [stringBody.eq_def]
  simp [noControl, read, bind, Except.bind]

/-- A literal writes a character with a simple escape, as it stands, or as one or two code units. -/
theorem quotedCharacter_cases (character : Char) :
    (∃ escaped, simpleEscape? escaped = some character ∧
      quotedCharacter character = ['\\', escaped]) ∨
    (character ≠ '"' ∧ character ≠ '\\' ∧ ¬ character < ' ' ∧
      quotedCharacter character = [character]) ∨
    (character.toNat < 0x10000 ∧ quotedCharacter character = unitEscape character.toNat) ∨
    ∃ leading trailing, (0xD800 ≤ leading ∧ leading < 0xDC00) ∧
      (0xDC00 ≤ trailing ∧ trailing < 0xE000) ∧
      0x10000 + (leading - 0xD800) * 0x400 + (trailing - 0xDC00) = character.toNat ∧
      quotedCharacter character = unitEscape leading ++ unitEscape trailing := by
  generalize written : quotedCharacter character = form
  unfold quotedCharacter at written
  dsimp only at written
  split at written
  next special =>
    obtain rfl | rfl := special
    · exact .inl ⟨_, rfl, written.symm⟩
    · exact .inl ⟨_, rfl, written.symm⟩
  split at written
  next lineFeed => exact .inl ⟨_, lineFeed ▸ rfl, written.symm⟩
  split at written
  next carriageReturn => exact .inl ⟨_, carriageReturn ▸ rfl, written.symm⟩
  split at written
  next tabulator => exact .inl ⟨_, tabulator ▸ rfl, written.symm⟩
  split at written
  next formFeed => exact .inl ⟨_, formFeed ▸ rfl, written.symm⟩
  split at written
  next backspace => exact .inl ⟨_, backspace ▸ rfl, written.symm⟩
  split at written
  next notSpecial _ _ _ _ _ printable =>
    obtain ⟨noQuote, noBackslash⟩ := not_or.mp notSpecial
    exact .inr (.inl ⟨noQuote, noBackslash, Char.not_lt.mpr printable.1, written.symm⟩)
  split at written
  next basic => exact .inr (.inr (.inl ⟨basic, written.symm⟩))
  next supplementary =>
    have valid := toNat_lt_or_surrogates character
    exact .inr (.inr (.inr ⟨_, _, by omega, by omega, by omega, written.symm⟩))

/-- A string goes on after a character as it is written in a literal. -/
theorem stringBody_quotedCharacter (character : Char) {text : List Char} (unfinished : text ≠ [])
    {tail : Scanned (List Char) text} (read : stringBody opening text = .ok tail) :
    ∃ shorter, stringBody opening (quotedCharacter character ++ text) =
      .ok ⟨character :: tail.value, tail.rest, shorter⟩ := by
  obtain ⟨next, rest, rfl⟩ := List.exists_cons_of_ne_nil unfinished
  rcases quotedCharacter_cases character with ⟨escaped, simple, written⟩ |
      ⟨noQuote, noBackslash, noControl, written⟩ | ⟨basic, written⟩ |
      ⟨leading, trailing, isLeading, isTrailing, code, written⟩
  · rw [written]
    exact stringBody_simpleEscape simple read
  · rw [written]
    exact stringBody_plain noQuote noBackslash noControl read
  · obtain ⟨shorter, escape⟩ := unicodeEscape_basic basic next rest
    rw [written]
    exact stringBody_unicodeEscape escape read
  · obtain ⟨shorter, escape⟩ := unicodeEscape_pair isLeading isTrailing next rest
    rw [code, Char.ofNat_toNat] at escape
    rw [written]
    exact stringBody_unicodeEscape escape read

/-- The characters of a literal are read as the text that it stands for. -/
theorem stringBody_quoted (opening : Nat) (text rest : List Char) :
    ∃ shorter, stringBody opening (text.flatMap quotedCharacter ++ '"' :: rest) =
      .ok ⟨text, rest, shorter⟩ := by
  induction text with
  | nil =>
      refine ⟨by simp, ?_⟩
      change stringBody opening ('"' :: rest) = _
      rw [stringBody]
  | cons character later inductionHypothesis =>
      obtain ⟨shorter, read⟩ := inductionHypothesis
      rw [List.flatMap_cons, List.append_assoc]
      exact stringBody_quotedCharacter character (by simp) read

/-- A literal is a JSON text that is read as the text that it stands for. -/
theorem parse_quoted (text : String) : parse (quoted text) = .ok (.string text) := by
  obtain ⟨shorter, read⟩ := stringBody_quoted
    ((text.toList.flatMap quotedCharacter ++ ['"']).length + 1) text.toList []
  have content : ∃ longer, value ('"' :: (text.toList.flatMap quotedCharacter ++ ['"'])) =
      .ok ⟨.string text, [], longer⟩ := by
    refine ⟨by simp, ?_⟩
    rw [value, read]
    simp [bind, Except.bind]
  obtain ⟨longer, content⟩ := content
  have blanks : skipBlanks ('"' :: (text.toList.flatMap quotedCharacter ++ ['"'])) =
      '"' :: (text.toList.flatMap quotedCharacter ++ ['"']) := by
    simp [skipBlanks, isBlank]
  have opened : document (quoted text).toList = .ok (.string text) := by
    rw [quoted, String.toList_ofList, document, blanks, content]
    · rfl
    · intro tail same
      exact absurd (List.cons.inj same).1 (by decide)
  rw [parse, opened]
  rfl

def readLiteral? (literal : String) : Option String :=
  match parse literal with
  | .ok (.string text) => some text
  | _ => none

theorem readLiteral?_quoted (text : String) : readLiteral? (quoted text) = some text := by
  rw [readLiteral?, parse_quoted]

end Json

namespace Literal

/-- This function reads a literal after its opening quote. A backslash stands for the character
after it, a dollar sign would start an interpolation, and the closing quote is the last
character. -/
def scan (quote : Char) : List Char → Option (List Char)
  | [] => none
  | ['\\'] => none
  | '\\' :: escaped :: rest => (scan quote rest).map (escaped :: ·)
  | character :: rest =>
      if character = quote then
        if rest = [] then some [] else none
      else if character = '$' then
        none
      else
        (scan quote rest).map (character :: ·)

def read? (quote : Char) (literal : String) : Option String :=
  match literal.toList with
  | [] => none
  | first :: rest => if first = quote then (scan quote rest).map String.ofList else none

def quotedCharacter (quote character : Char) : List Char :=
  if character = '\\' ∨ character = quote ∨ character = '$' then ['\\', character]
  else [character]

theorem escape_cons (special character : Char) (text : List Char) :
    escape special (character :: text) =
      (if character = special then ['\\', character] else [character]) ++ escape special text :=
  List.flatMap_cons

/-- In this order the three calls escape each character of the text once. -/
theorem escaped_eq_flatMap {quote : Char} (noBackslash : quote ≠ '\\') (noDollar : quote ≠ '$')
    (text : List Char) : escaped quote text = text.flatMap (quotedCharacter quote) := by
  induction text with
  | nil => rfl
  | cons character later inductionHypothesis =>
      rw [List.flatMap_cons, ← inductionHypothesis, escaped, escape_cons]
      by_cases backslash : character = '\\'
      · have noQuote : '\\' ≠ quote := noBackslash.symm
        simp [quotedCharacter, escaped, escape_cons, backslash, noQuote]
      · by_cases isQuote : character = quote
        · simp [quotedCharacter, escaped, escape_cons, isQuote, noBackslash, noDollar]
        · simp only [quotedCharacter, escaped, escape_cons, backslash, isQuote, if_false,
            List.singleton_append, false_or]

theorem quoted_eq {quote : Char} (noBackslash : quote ≠ '\\') (noDollar : quote ≠ '$')
    (text : String) :
    quoted quote text =
      String.ofList (quote :: (text.toList.flatMap (quotedCharacter quote) ++ [quote])) := by
  rw [quoted, escaped_eq_flatMap noBackslash noDollar]

/-- A character is read as it is written. -/
theorem scan_quotedCharacter (quote character : Char) (text : List Char) :
    scan quote (quotedCharacter quote character ++ text) =
      (scan quote text).map (character :: ·) := by
  unfold quotedCharacter
  split
  · rfl
  · next plain =>
    obtain ⟨noBackslash, noQuote, noDollar⟩ :
        character ≠ '\\' ∧ character ≠ quote ∧ character ≠ '$' := by
      simpa only [not_or] using plain
    simp [scan, noBackslash, noQuote, noDollar]

/-- The characters of a literal are read as the text that they were written from. -/
theorem scan_quoted {quote : Char} (noBackslash : quote ≠ '\\') (text : List Char) :
    scan quote (text.flatMap (quotedCharacter quote) ++ [quote]) = some text := by
  induction text with
  | nil => simp [scan, noBackslash]
  | cons character later inductionHypothesis =>
      rw [List.flatMap_cons, List.append_assoc, scan_quotedCharacter, inductionHypothesis]
      rfl

theorem read?_quoted {quote : Char} (noBackslash : quote ≠ '\\') (noDollar : quote ≠ '$')
    (text : String) : read? quote (quoted quote text) = some text := by
  rw [read?, quoted_eq noBackslash noDollar, String.toList_ofList]
  dsimp only
  rw [if_pos rfl, scan_quoted noBackslash, Option.map_some, String.ofList_toList]

end Literal

/-- A literal in Dart is read as the text that it was written from. -/
theorem Dart.read?_quoted (text : String) : Literal.read? '\'' (quoted text) = some text :=
  Literal.read?_quoted (by decide) (by decide) text

example : Dart.quoted "\\$'" = "'\\\\\\$\\''" := by decide

/-- A literal in Kotlin is read as the text that it was written from. -/
theorem Kotlin.read?_quoted (text : String) : Literal.read? '"' (quoted text) = some text :=
  Literal.read?_quoted (by decide) (by decide) text

end Exemplar
