import Exemplar.Unicode.CaseContext
import Exemplar.Unicode.LowerMapping
import Exemplar.Unicode.UpperMapping

namespace Exemplar.Unicode

def upperForm (character : Char) : List Char :=
  upperMapping.form character

def lowerForm (character : Char) : List Char :=
  lowerMapping.form character

/-- The next letter is the first character that is not case-ignorable, if it is cased. -/
def startsCased : List Char → Bool
  | [] => false
  | character :: rest =>
      if isCaseIgnorable character then startsCased rest else isCased character

/-- This function writes a text in lower case. The characters before the text are given in reverse
order, because a final sigma follows a cased letter and is not followed by one. -/
def lowerAfter (before : List Char) : List Char → List Char
  | [] => []
  | character :: rest =>
      let form :=
        if character = 'Σ' ∧ startsCased before ∧ ¬ startsCased rest then ['ς']
        else lowerForm character
      form ++ lowerAfter (character :: before) rest

/-- This function writes a text in lower case. -/
def lower (text : List Char) : List Char :=
  lowerAfter [] text

end Exemplar.Unicode
