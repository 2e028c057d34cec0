import Exemplar.Json.SyntaxError

/-
Scanners of JSON texts. A scanner returns what it read and the rest of the text, together with the
fact that the rest is shorter, so that readers built from scanners come to an end.
-/

namespace Exemplar.Json

/-- A scanner read `value` from the start of the text, and `rest` is what follows it. -/
structure Scanned (α : Type) (text : List Char) where
  value : α
  rest : List Char
  shorter : rest.length < text.length

/-- Only these four characters separate the parts of a JSON text. -/
def isBlank (character : Char) : Bool :=
  character == ' ' || character == '\t' || character == '\n' || character == '\r'

def skipBlanks (text : List Char) : List Char :=
  text.dropWhile isBlank

theorem length_skipBlanks_le (text : List Char) : (skipBlanks text).length ≤ text.length :=
  (List.dropWhile_sublist isBlank).length_le

end Exemplar.Json
