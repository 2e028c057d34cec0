namespace Exemplar.Json

/-- These are the causes of a syntax error. -/
inductive FaultCause where
  | valueExpected
  | keyExpected
  | colonExpected
  | commaExpected
  | unterminatedString
  | controlCharacter
  | unknownEscape
  | malformedCodeUnit
  | loneSurrogate
  | extraData
  | byteOrderMark
  | integerTooLong
  deriving DecidableEq

/-- This function words the cause of a syntax error. -/
def FaultCause.message : FaultCause → String
  | .valueExpected => "Expecting value"
  | .keyExpected => "Expecting property name enclosed in double quotes"
  | .colonExpected => "Expecting ':' delimiter"
  | .commaExpected => "Expecting ',' delimiter"
  | .unterminatedString => "Unterminated string starting at"
  | .controlCharacter => "Invalid control character at"
  | .unknownEscape => "Invalid \\escape"
  | .malformedCodeUnit => "Invalid \\uXXXX escape"
  | .loneSurrogate => "Surrogate without its partner"
  | .extraData => "Extra data"
  | .byteOrderMark => "Unexpected UTF-8 BOM (decode using utf-8-sig)"
  | .integerTooLong => "Integer has too many digits"

/-- A fault is found with `remaining` characters left to read. -/
structure Fault where
  cause : FaultCause
  remaining : Nat
  deriving DecidableEq

/-- A syntax error names its cause and its place. Lines and columns count from one. -/
structure SyntaxError where
  cause : FaultCause
  line : Nat
  column : Nat
  offset : Nat
  deriving DecidableEq

/-- This function finds the place of a fault in the text. -/
def Fault.locate (text : List Char) (fault : Fault) : SyntaxError :=
  let offset := text.length - fault.remaining
  let before := text.take offset
  { cause := fault.cause
    line := before.count '\n' + 1
    column := (before.reverse.takeWhile (· != '\n')).length + 1
    offset := offset }

def SyntaxError.message (error : SyntaxError) : String :=
  s!"{error.cause.message}: line {error.line} column {error.column} (char {error.offset})"

end Exemplar.Json
