import Exemplar.Unicode.Alphanumeric
import Exemplar.Unicode.Casing
import Exemplar.Unicode.Digit
import Exemplar.Unicode.Uppercase

namespace Exemplar.Naming

/-- The low line and the hyphen separate the parts of a key. -/
def isSeparator (character : Char) : Bool :=
  character == '_' || character == '-'

/-- A separator disappears and capitalizes the character after it, which is never read as a
separator itself. A separator stays before a line feed and at the end. -/
def collapseSeparators : List Char → List Char
  | separator :: next :: rest =>
      if isSeparator separator && next != '\n' then
        Unicode.upperForm next ++ collapseSeparators rest
      else
        separator :: collapseSeparators (next :: rest)
  | [last] => [last]
  | [] => []

def pascal : List Char → List Char
  | [] => []
  | first :: rest => Unicode.upperForm first ++ collapseSeparators rest

def camel : List Char → List Char
  | [] => []
  | first :: rest => Unicode.lowerForm first ++ collapseSeparators rest

/-- A word goes on with the next character when both are alphanumeric, no capital follows a
character that is not one, and digits stand only among digits. -/
def sameWord (previous next : Char) : Bool :=
  Unicode.isAlphanumeric previous && Unicode.isAlphanumeric next &&
    !(Unicode.isUppercase next && !Unicode.isUppercase previous) &&
    Unicode.isDigit next == Unicode.isDigit previous

/-- This function finds the words of a text. Characters that are not alphanumeric form no words. -/
def words (text : List Char) : List (List Char) :=
  (text.splitBy sameWord).filter fun group => group.any Unicode.isAlphanumeric

/-- This function joins the words of a text in lower case. A text without words is written in lower
case as it is. -/
def snake (text : List Char) : List Char :=
  if (words text).isEmpty then
    Unicode.lower text
  else
    ['_'].intercalate ((words text).map Unicode.lower)

/-- This function writes a key in PascalCase. -/
def pascalCase (key : String) : String :=
  String.ofList (pascal key.toList)

/-- This function writes a key in camelCase. -/
def camelCase (key : String) : String :=
  String.ofList (camel key.toList)

/-- This function writes a name in snake_case. -/
def snakeCase (name : String) : String :=
  String.ofList (snake name.toList)

end Exemplar.Naming
