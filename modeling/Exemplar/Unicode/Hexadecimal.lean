namespace Exemplar.Unicode

/-- This function writes a number with at least `width` lower-case hexadecimal digits. -/
def hexadecimal (width code : Nat) : List Char :=
  let digits := Nat.toDigits 16 code
  List.replicate (width - digits.length) '0' ++ digits

end Exemplar.Unicode
