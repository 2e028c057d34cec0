import Exemplar.Binary64.Rounding
import Exemplar.Json.Basic
import Exemplar.Json.Scanned

namespace Exemplar.Json

/-- Only the ten digits of the basic alphabet form numbers. -/
def isDecimalDigit (character : Char) : Bool :=
  decide ('0' ≤ character ∧ character ≤ '9')

def digitsValue (digits : List Char) : Nat :=
  digits.foldl (fun value digit => value * 10 + (digit.toNat - '0'.toNat)) 0

/-- This function reads the digits before the point. A leading zero stands alone. -/
def wholeDigits? : List Char → Option (List Char × List Char)
  | [] => none
  | '0' :: rest => some (['0'], rest)
  | digit :: rest =>
      if isDecimalDigit digit then
        some (digit :: rest.takeWhile isDecimalDigit, rest.dropWhile isDecimalDigit)
      else
        none

/-- This function reads a point and the digits after it. Without a digit there is no fraction. -/
def fractionDigits : List Char → List Char × List Char
  | '.' :: rest =>
      if (rest.takeWhile isDecimalDigit).isEmpty then
        ([], '.' :: rest)
      else
        (rest.takeWhile isDecimalDigit, rest.dropWhile isDecimalDigit)
  | text => ([], text)

/-- This function reads the digits of an exponent. -/
def exponentDigits? (negative : Bool) (text : List Char) : Option (Int × List Char) :=
  let digits := text.takeWhile isDecimalDigit
  if digits.isEmpty then
    none
  else
    let value : Int := digitsValue digits
    some (if negative then -value else value, text.dropWhile isDecimalDigit)

def signedExponent? : List Char → Option (Int × List Char)
  | '-' :: rest => exponentDigits? true rest
  | '+' :: rest => exponentDigits? false rest
  | text => exponentDigits? false text

/-- This function reads an exponent. Without a digit there is no exponent. -/
def exponentPart : List Char → Option Int × List Char
  | [] => (none, [])
  | mark :: rest =>
      if mark = 'e' ∨ mark = 'E' then
        match signedExponent? rest with
        | some (exponent, after) => (some exponent, after)
        | none => (none, mark :: rest)
      else
        (none, mark :: rest)

/-- A longer integer is refused. -/
def longestInteger : Nat := 4300

/-- This function gives the parts of a number their value. -/
def numberValue (negative : Bool) (whole fraction : List Char) (exponent : Option Int) :
    Except FaultCause Json :=
  if fraction.isEmpty ∧ exponent.isNone then
    if longestInteger < whole.length then
      .error .integerTooLong
    else
      let value : Int := digitsValue whole
      .ok (.integer (if negative then -value else value))
  else
    .ok (.float (Binary64.ofDecimal negative (digitsValue (whole ++ fraction))
      (exponent.getD 0 - fraction.length)))

/-- This function reads a number without its sign. -/
def unsignedNumber? (negative : Bool) (text : List Char) :
    Option (Except FaultCause Json × List Char) := do
  let (whole, afterWhole) ← wholeDigits? text
  let (fraction, afterFraction) := fractionDigits afterWhole
  let (exponent, rest) := exponentPart afterFraction
  some (numberValue negative whole fraction exponent, rest)

def number? : List Char → Option (Except FaultCause Json × List Char)
  | '-' :: rest => unsignedNumber? true rest
  | text => unsignedNumber? false text

theorem length_dropDigits_le (text : List Char) :
    (text.dropWhile isDecimalDigit).length ≤ text.length :=
  (List.dropWhile_sublist isDecimalDigit).length_le

theorem length_of_wholeDigits? {text whole rest : List Char}
    (found : wholeDigits? text = some (whole, rest)) : rest.length < text.length := by
  unfold wholeDigits? at found
  split at found
  · contradiction
  · simp only [Option.some.injEq, Prod.mk.injEq] at found
    simp [← found.2]
  · next digit tail _ =>
    split at found
    · simp only [Option.some.injEq, Prod.mk.injEq] at found
      have := length_dropDigits_le tail
      simp only [← found.2, List.length_cons]
      omega
    · contradiction

theorem length_fractionDigits_le (text : List Char) :
    (fractionDigits text).2.length ≤ text.length := by
  unfold fractionDigits
  split
  · next tail =>
    split
    · simp
    · have := length_dropDigits_le tail
      simp only [List.length_cons]
      omega
  · simp

theorem length_of_exponentDigits? {negative : Bool} {text rest : List Char} {exponent : Int}
    (found : exponentDigits? negative text = some (exponent, rest)) :
    rest.length ≤ text.length := by
  simp only [exponentDigits?] at found
  split at found
  · contradiction
  · simp only [Option.some.injEq, Prod.mk.injEq] at found
    simpa [← found.2] using length_dropDigits_le text

theorem length_of_signedExponent? {text rest : List Char} {exponent : Int}
    (found : signedExponent? text = some (exponent, rest)) : rest.length ≤ text.length := by
  unfold signedExponent? at found
  split at found
  · exact Nat.le_succ_of_le (length_of_exponentDigits? found)
  · exact Nat.le_succ_of_le (length_of_exponentDigits? found)
  · exact length_of_exponentDigits? found

theorem length_exponentPart_le (text : List Char) :
    (exponentPart text).2.length ≤ text.length := by
  unfold exponentPart
  split
  · simp
  · split
    · split
      · next found =>
        have := length_of_signedExponent? found
        simp only [List.length_cons]
        omega
      · simp
    · simp

theorem length_of_unsignedNumber? {negative : Bool} {text rest : List Char}
    {value : Except FaultCause Json}
    (found : unsignedNumber? negative text = some (value, rest)) :
    rest.length < text.length := by
  simp only [unsignedNumber?, Option.bind_eq_bind, Option.bind_eq_some_iff] at found
  obtain ⟨⟨whole, afterWhole⟩, foundWhole, found⟩ := found
  simp only [Option.some.injEq, Prod.mk.injEq] at found
  have wholeShorter := length_of_wholeDigits? foundWhole
  have fractionShorter := length_fractionDigits_le afterWhole
  have exponentShorter := length_exponentPart_le (fractionDigits afterWhole).2
  rw [← found.2]
  omega

/-- A number takes at least one character. -/
theorem length_of_number? {text rest : List Char} {value : Except FaultCause Json}
    (found : number? text = some (value, rest)) : rest.length < text.length := by
  unfold number? at found
  split at found
  · exact Nat.lt_succ_of_lt (length_of_unsignedNumber? found)
  · exact length_of_unsignedNumber? found

end Exemplar.Json
