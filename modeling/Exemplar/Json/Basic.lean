import Exemplar.Binary64.Basic

namespace Exemplar

/-- A JSON value keeps integers of any size apart from the other numbers. -/
inductive Json where
  | null
  | boolean (value : Bool)
  | integer (value : Int)
  | float (value : Binary64)
  | string (value : String)
  | array (items : List Json)
  | object (members : List (String × Json))

namespace Json

/-- A value holds when it is neither null, false, zero nor empty. -/
def truthy : Json → Bool
  | .null => false
  | .boolean value => value
  | .integer value => value != 0
  | .float value => !value.isZero
  | .string value => value != ""
  | .array items => !items.isEmpty
  | .object members => !members.isEmpty

/-- This function names the kind of a value. -/
def kindName : Json → String
  | .null => "null"
  | .boolean _ => "boolean"
  | .integer _ => "number"
  | .float _ => "number"
  | .string _ => "string"
  | .array _ => "array"
  | .object _ => "object"

/-- A repeated key keeps its first position and takes its last value. -/
def insertMember (key : String) (value : Json) :
    List (String × Json) → List (String × Json)
  | [] => [(key, value)]
  | member :: rest =>
      if member.1 = key then (key, value) :: rest else member :: insertMember key value rest

/-- This function builds an object from the members of a text. -/
def ofMembers (members : List (String × Json)) : Json :=
  .object (members.foldl (fun merged member => insertMember member.1 member.2 merged) [])

def member? (key : String) : List (String × Json) → Option Json
  | [] => none
  | member :: rest => if member.1 = key then some member.2 else member? key rest

/-- This function takes the member with a key out of the members. -/
def takeMember? (key : String) : List (String × Json) → Option (Json × List (String × Json))
  | [] => none
  | member :: rest =>
      if member.1 = key then some (member.2, rest)
      else (takeMember? key rest).map fun (value, others) => (value, member :: others)

def isText (text : String) : Json → Bool
  | .string value => value == text
  | _ => false

def items? : Json → Option (List Json)
  | .array items => some items
  | _ => none

def first? : Json → Option Json
  | .array (first :: _) => some first
  | _ => none

def members? : Json → Option (List (String × Json))
  | .object members => some members
  | _ => none

end Json

end Exemplar
