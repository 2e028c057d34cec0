namespace Exemplar

namespace Literal

/-- This function puts a backslash in front of every occurrence of a character. -/
def escape (special : Char) (text : List Char) : List Char :=
  text.flatMap fun character => if character = special then ['\\', character] else [character]

/-- The backslashes of the text come first, because the other two calls add backslashes that must
not be escaped again. -/
def escaped (quote : Char) (text : List Char) : List Char :=
  escape '$' (escape quote (escape '\\' text))

def quoted (quote : Char) (text : String) : String :=
  String.ofList (quote :: (escaped quote text.toList ++ [quote]))

end Literal

def Dart.quoted (text : String) : String :=
  Literal.quoted '\'' text

def Kotlin.quoted (text : String) : String :=
  Literal.quoted '"' text

end Exemplar
