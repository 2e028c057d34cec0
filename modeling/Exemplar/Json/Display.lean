import Exemplar.Binary64.Text
import Exemplar.Json.Basic
import Exemplar.Unicode.Hexadecimal
import Exemplar.Unicode.Printable

namespace Exemplar.Json

/-- Double quotes are used only around a text with single quotes and without double quotes. -/
def displayQuote (text : List Char) : Char :=
  if text.contains '\'' && !text.contains '"' then '"' else '\''

/-- This function escapes the quote in use, the backslash and whatever cannot be printed. -/
def displayCharacter (quote character : Char) : List Char :=
  if character = quote ∨ character = '\\' then ['\\', character]
  else if character = '\n' then ['\\', 'n']
  else if character = '\r' then ['\\', 'r']
  else if character = '\t' then ['\\', 't']
  else if Unicode.isPrintable character then [character]
  else if character.toNat < 0x100 then '\\' :: 'x' :: Unicode.hexadecimal 2 character.toNat
  else if character.toNat < 0x10000 then '\\' :: 'u' :: Unicode.hexadecimal 4 character.toNat
  else '\\' :: 'U' :: Unicode.hexadecimal 8 character.toNat

def displayString (text : String) : String :=
  let characters := text.toList
  let quote := displayQuote characters
  String.ofList (quote :: (characters.flatMap (displayCharacter quote) ++ [quote]))

mutual

/-- This function shows a value. -/
def display : Json → String
  | .null => "None"
  | .boolean true => "True"
  | .boolean false => "False"
  | .integer value => toString value
  | .float value => value.text
  | .string value => displayString value
  | .array items => "[" ++ ", ".intercalate (displayItems items) ++ "]"
  | .object members => "\x7b" ++ ", ".intercalate (displayMembers members) ++ "\x7d"

def displayItems : List Json → List String
  | [] => []
  | item :: rest => display item :: displayItems rest

def displayMembers : List (String × Json) → List String
  | [] => []
  | (key, value) :: rest =>
      (displayString key ++ ": " ++ display value) :: displayMembers rest

end

/-- This function writes a value as text. A string stands for itself. -/
def plainText : Json → String
  | .string value => value
  | value => value.display

end Exemplar.Json
