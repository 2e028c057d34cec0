import Exemplar.Unicode.CodePointSet

namespace Exemplar.Unicode

/-- These are the code points of spaces, line ends and the four information separators in the
Unicode standard, version 14. -/
def blankCodePoints : CodePointSet :=
  [(0x9, 0xD), (0x1C, 0x20), (0x85, 0x85), (0xA0, 0xA0), (0x1680, 0x1680), (0x2000, 0x200A),
   (0x2028, 0x2029), (0x202F, 0x202F), (0x205F, 0x205F), (0x3000, 0x3000)]

def isBlank (character : Char) : Bool :=
  blankCodePoints.contains character.toNat

def trimEnd (text : List Char) : List Char :=
  (text.reverse.dropWhile isBlank).reverse

def trim (text : List Char) : List Char :=
  trimEnd (text.dropWhile isBlank)

end Exemplar.Unicode
