import Exemplar.Json.NumberLiteral
import Exemplar.Json.StringLiteral

namespace Exemplar.Json

def words : List (List Char × Json) :=
  [("null".toList, .null), ("true".toList, .boolean true), ("false".toList, .boolean false),
   ("NaN".toList, .float .nan), ("Infinity".toList, .float (.infinite false)),
   ("-Infinity".toList, .float (.infinite true))]

def word? (text : List Char) : Option (List Char × Json) :=
  words.find? fun word => word.1.isPrefixOf text

/-- This function reads a value that holds no other values. -/
def scalar (text : List Char) : Except Fault (Scanned Json text) :=
  match word? text with
  | some (word, value) =>
      if shorter : (text.drop word.length).length < text.length then
        .ok ⟨value, text.drop word.length, shorter⟩
      else
        .error ⟨.valueExpected, text.length⟩
  | none =>
      match found : number? text with
      | some (.ok value, rest) => .ok ⟨value, rest, length_of_number? found⟩
      | some (.error cause, _) => .error ⟨cause, text.length⟩
      | none => .error ⟨.valueExpected, text.length⟩

mutual

/-- This function reads one value. -/
def value (text : List Char) : Except Fault (Scanned Json text) :=
  match text with
  | '"' :: rest => do
      let content ← stringBody (rest.length + 1) rest
      .ok ⟨.string (String.ofList content.value), content.rest,
        Nat.lt_succ_of_lt content.shorter⟩
  | '[' :: rest =>
      have blanks := length_skipBlanks_le rest
      match atItem : skipBlanks rest with
      | ']' :: after => .ok ⟨.array [], after, by simp_all; omega⟩
      | start => do
          let tail ← items start
          .ok ⟨.array tail.value, tail.rest, by have := tail.shorter; simp_all; omega⟩
  | '\x7b' :: rest =>
      have blanks := length_skipBlanks_le rest
      match atKey : skipBlanks rest with
      | '\x7d' :: after => .ok ⟨.object [], after, by simp_all; omega⟩
      | start => do
          let tail ← members start
          .ok ⟨ofMembers tail.value, tail.rest, by have := tail.shorter; simp_all; omega⟩
  | other => scalar other
  termination_by 2 * text.length
  decreasing_by
    all_goals
      simp_all
      omega

/-- This function reads the items of an array, starting at an item. -/
def items (text : List Char) : Except Fault (Scanned (List Json) text) := do
  let first ← value text
  have firstShorter := first.shorter
  have blanks := length_skipBlanks_le first.rest
  match atMark : skipBlanks first.rest with
  | ']' :: after => .ok ⟨[first.value], after, by simp_all; omega⟩
  | ',' :: after => do
      have moreBlanks := length_skipBlanks_le after
      let tail ← items (skipBlanks after)
      .ok ⟨first.value :: tail.value, tail.rest, by have := tail.shorter; simp_all; omega⟩
  | mark => .error ⟨.commaExpected, mark.length⟩
  termination_by 2 * text.length + 1
  decreasing_by
    · exact Nat.lt_succ_self _
    · simp_all
      omega

/-- This function reads the members of an object, starting at a key. -/
def members (text : List Char) : Except Fault (Scanned (List (String × Json)) text) :=
  match text with
  | '"' :: rest => do
      let key ← stringBody (rest.length + 1) rest
      have keyShorter := key.shorter
      have keyBlanks := length_skipBlanks_le key.rest
      match atColon : skipBlanks key.rest with
      | ':' :: afterColon => do
          have valueBlanks := length_skipBlanks_le afterColon
          let first ← value (skipBlanks afterColon)
          have firstShorter := first.shorter
          have blanks := length_skipBlanks_le first.rest
          let member := (String.ofList key.value, first.value)
          match atMark : skipBlanks first.rest with
          | '\x7d' :: after => .ok ⟨[member], after, by simp_all; omega⟩
          | ',' :: after => do
              have moreBlanks := length_skipBlanks_le after
              let tail ← members (skipBlanks after)
              .ok ⟨member :: tail.value, tail.rest, by have := tail.shorter; simp_all; omega⟩
          | mark => .error ⟨.commaExpected, mark.length⟩
      | mark => .error ⟨.colonExpected, mark.length⟩
  | other => .error ⟨.keyExpected, other.length⟩
  termination_by 2 * text.length + 1
  decreasing_by
    all_goals
      simp_all
      omega

end

/-- This function reads a text that holds one value and blanks around it. -/
def document (text : List Char) : Except Fault Json :=
  match text with
  | '\uFEFF' :: _ => .error ⟨.byteOrderMark, text.length⟩
  | _ => do
      let content ← value (skipBlanks text)
      match skipBlanks content.rest with
      | [] => .ok content.value
      | extra => .error ⟨.extraData, extra.length⟩

/-- This function reads a JSON text. -/
def parse (text : String) : Except SyntaxError Json :=
  (document text.toList).mapError (Fault.locate text.toList)

end Exemplar.Json
