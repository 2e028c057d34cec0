namespace Exemplar.ControlSequence

/-- The parameters are the digits and the signs next to them. -/
def isParameter (character : Char) : Bool :=
  '0' ≤ character && character ≤ '?'

/-- The intermediates are the blank and the signs next to it. -/
def isIntermediate (character : Char) : Bool :=
  ' ' ≤ character && character ≤ '/'

/-- The final characters are the letters and the signs between and around them. -/
def isFinal (character : Char) : Bool :=
  '@' ≤ character && character ≤ '~'

/-- This function reads a control sequence behind its bracket and returns what follows it. -/
def rest? (text : List Char) : Option (List Char) :=
  match (text.dropWhile isParameter).dropWhile isIntermediate with
  | final :: rest => if isFinal final then some rest else none
  | [] => none

/-- A control sequence takes at least its final character. -/
theorem length_lt_of_rest? {text rest : List Char} (h : rest? text = some rest) :
    rest.length < text.length := by
  have shorter : ((text.dropWhile isParameter).dropWhile isIntermediate).length ≤ text.length :=
    ((List.dropWhile_sublist _).trans (List.dropWhile_sublist _)).length_le
  unfold rest? at h
  split at h
  next final later found =>
    rw [found, List.length_cons] at shorter
    split at h
    · cases h
      omega
    · cases h
  next => cases h

/-- This function removes the control sequences of a text. A beginning that no sequence follows
stays. -/
def strip : List Char → List Char
  | '\x1b' :: '[' :: text =>
      match found : rest? text with
      | some rest =>
          have := length_lt_of_rest? found
          strip rest
      | none => '\x1b' :: '[' :: strip text
  | character :: text => character :: strip text
  | [] => []
termination_by text => text.length
decreasing_by
  · simp only [List.length_cons]
    omega
  · simp only [List.length_cons]
    omega
  · simp only [List.length_cons]
    omega

/-- This function returns a text as a terminal shows it. -/
def shown (text : String) : String :=
  String.ofList (strip text.toList)

end Exemplar.ControlSequence
