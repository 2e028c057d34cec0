import Exemplar.Json.Scanned

/-
The strings of a JSON text. A string ends at the first quote without a backslash, control
characters are refused, and a pair of surrogate escapes stands for one character. Half of a pair
stands for no character, so the reader gives up there.
-/

namespace Exemplar.Json

/-- This function reads one hexadecimal digit. -/
def hexDigit? (character : Char) : Option Nat :=
  if '0' ≤ character ∧ character ≤ '9' then some (character.toNat - '0'.toNat)
  else if 'a' ≤ character ∧ character ≤ 'f' then some (character.toNat - 'a'.toNat + 10)
  else if 'A' ≤ character ∧ character ≤ 'F' then some (character.toNat - 'A'.toNat + 10)
  else none

/-- This function reads the four hexadecimal digits of a code unit. Another character has to follow
them, because the string has not ended yet. -/
def codeUnit? : (text : List Char) → Option (Scanned Nat text)
  | first :: second :: third :: fourth :: next :: rest => do
      let first ← hexDigit? first
      let second ← hexDigit? second
      let third ← hexDigit? third
      let fourth ← hexDigit? fourth
      some ⟨((first * 16 + second) * 16 + third) * 16 + fourth, next :: rest,
        by simp only [List.length_cons]; omega⟩
  | _ => none

/-- A trailing surrogate is an escape of its own. -/
def trailingSurrogate (text : List Char) : Except Fault (Scanned Nat text) :=
  match text with
  | '\\' :: 'u' :: rest =>
      match codeUnit? rest with
      | none => .error ⟨.malformedCodeUnit, rest.length + 1⟩
      | some unit =>
          if 0xDC00 ≤ unit.value ∧ unit.value < 0xE000 then
            .ok ⟨unit.value, unit.rest, by
              have := unit.shorter
              simp only [List.length_cons]
              omega⟩
          else
            .error ⟨.loneSurrogate, rest.length + 1⟩
  | other => .error ⟨.loneSurrogate, other.length⟩

/-- This function reads the digits after a backslash and a `u`. A leading surrogate joins the
trailing surrogate right after it. Without its partner a surrogate is no character. -/
def unicodeEscape (text : List Char) : Except Fault (Scanned Char text) :=
  match codeUnit? text with
  | none => .error ⟨.malformedCodeUnit, text.length + 1⟩
  | some unit =>
      if 0xD800 ≤ unit.value ∧ unit.value < 0xDC00 then do
        let trailing ← trailingSurrogate unit.rest
        let code := 0x10000 + (unit.value - 0xD800) * 0x400 + (trailing.value - 0xDC00)
        .ok ⟨Char.ofNat code, trailing.rest, Nat.lt_trans trailing.shorter unit.shorter⟩
      else if 0xDC00 ≤ unit.value ∧ unit.value < 0xE000 then
        .error ⟨.loneSurrogate, text.length + 1⟩
      else
        .ok ⟨Char.ofNat unit.value, unit.rest, unit.shorter⟩

/-- These characters after a backslash stand for one character. -/
def simpleEscape? : Char → Option Char
  | '"' => some '"'
  | '\\' => some '\\'
  | '/' => some '/'
  | 'b' => some '\x08'
  | 'f' => some '\x0c'
  | 'n' => some '\n'
  | 'r' => some '\r'
  | 't' => some '\t'
  | _ => none

/-- This function reads a string after its opening quote. The opening quote was read with `opening`
characters left. -/
def stringBody (opening : Nat) (text : List Char) : Except Fault (Scanned (List Char) text) :=
  match text with
  | [] => .error ⟨.unterminatedString, opening⟩
  | '"' :: rest => .ok ⟨[], rest, by simp⟩
  | '\\' :: rest =>
      match rest with
      | [] => .error ⟨.unterminatedString, opening⟩
      | 'u' :: digits => do
          let character ← unicodeEscape digits
          let tail ← stringBody opening character.rest
          .ok ⟨character.value :: tail.value, tail.rest, by
            have := tail.shorter
            have := character.shorter
            simp only [List.length_cons]
            omega⟩
      | escaped :: after =>
          match simpleEscape? escaped with
          | none => .error ⟨.unknownEscape, after.length + 2⟩
          | some character => do
              let tail ← stringBody opening after
              .ok ⟨character :: tail.value, tail.rest, by
                have := tail.shorter
                simp only [List.length_cons]
                omega⟩
  | character :: rest =>
      if character < ' ' then
        .error ⟨.controlCharacter, rest.length + 1⟩
      else do
        let tail ← stringBody opening rest
        .ok ⟨character :: tail.value, tail.rest, by
          have := tail.shorter
          simp only [List.length_cons]
          omega⟩
  termination_by text.length
  decreasing_by
    · have := character.shorter
      simp only [List.length_cons]
      omega
    · simp only [List.length_cons]
      omega
    · simp only [List.length_cons]
      omega

end Exemplar.Json
