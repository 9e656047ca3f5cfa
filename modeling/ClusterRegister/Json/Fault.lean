import ClusterRegister.Number.Shortest
import ClusterRegister.Text.Quoted
import ClusterRegister.Text.Utf8

/-!
# Faults of JSON text

Why a text is not the JSON of what is expected, and where: a fault knows how many bytes were left
unread, from which its line and column follow.
-/

namespace ClusterRegister.Json

open ClusterRegister.Number ClusterRegister.Text

/-- A value found where another kind was expected. -/
inductive Found
  | null
  | boolean (value : Bool)
  | integer (value : Int)
  | float (negative : Bool) (value : Binary64)
  | string (text : String)
  | sequence
  | map
deriving DecidableEq, Repr

def Found.text : Found → String
  | .null => "null"
  | .boolean true => "boolean `true`"
  | .boolean false => "boolean `false`"
  | .integer n => "integer `" ++ intText n ++ "`"
  | .float negative x =>
    "floating point `" ++ String.ofList ((if negative then ['-'] else []) ++ x.text) ++ "`"
  | .string s => "string " ++ String.ofList (quoted s.toList)
  | .sequence => "sequence"
  | .map => "map"

/-- What is wrong with a text. -/
inductive Cause
  | endInValue
  | endInList
  | endInObject
  | endInString
  | expectedValue
  | expectedWord
  | expectedColon
  | expectedListComma
  | expectedObjectComma
  | keyNotString
  | trailingComma
  | trailingCharacters
  | badNumber
  | numberTooLarge
  | badEscape
  | loneSurrogate
  | unpairedSurrogate
  | controlCharacter
  | badUtf8
  | wrongType (found : Found) (expected : String)
  | wrongValue (value : Int) (expected : String)
  | wrongLength (length : Nat) (expected : String)
  | unknownVariant (name : String) (expected : String)
  | missingField (key : String)
  | duplicateField (key : String)
  | other (message : String)
deriving DecidableEq, Repr

/-- What is wrong, in words. -/
def Cause.message : Cause → String
  | .endInValue => "EOF while parsing a value"
  | .endInList => "EOF while parsing a list"
  | .endInObject => "EOF while parsing an object"
  | .endInString => "EOF while parsing a string"
  | .expectedValue => "expected value"
  | .expectedWord => "expected ident"
  | .expectedColon => "expected `:`"
  | .expectedListComma => "expected `,` or `]`"
  | .expectedObjectComma => "expected `,` or `\x7d`"
  | .keyNotString => "key must be a string"
  | .trailingComma => "trailing comma"
  | .trailingCharacters => "trailing characters"
  | .badNumber => "invalid number"
  | .numberTooLarge => "number out of range"
  | .badEscape => "invalid escape"
  | .loneSurrogate => "lone leading surrogate in hex escape"
  | .unpairedSurrogate => "unexpected end of hex escape"
  | .controlCharacter => "control character (\\u0000-\\u001F) found while parsing a string"
  | .badUtf8 => "invalid unicode code point"
  | .wrongType found expected => "invalid type: " ++ found.text ++ ", expected " ++ expected
  | .wrongValue n expected => "invalid value: integer `" ++ intText n ++ "`, expected " ++ expected
  | .wrongLength n expected => "invalid length " ++ natText n ++ ", expected " ++ expected
  | .unknownVariant name expected => "unknown variant `" ++ name ++ "`, expected " ++ expected
  | .missingField key => "missing field `" ++ key ++ "`"
  | .duplicateField key => "duplicate field `" ++ key ++ "`"
  | .other message => message

/-- A cause, and the number of bytes that were left unread. -/
structure Fault where
  cause : Cause
  left : Nat
deriving DecidableEq, Repr

/-- A fault at its place in a text. The line counts from one; the column counts the bytes of the line
that were read. -/
structure Malformed where
  cause : Cause
  line : Nat
  column : Nat
deriving DecidableEq, Repr

/-- The place of a fault in the text that was read. -/
def Fault.locate (text : Bytes) (fault : Fault) : Malformed :=
  let consumed := text.take (text.length - fault.left)
  { cause := fault.cause
    line := consumed.count 0x0A + 1
    column := (consumed.reverse.takeWhile (· ≠ 0x0A)).length }

/-- What is wrong and where, in words. -/
def Malformed.message (m : Malformed) : String :=
  m.cause.message ++ " at line " ++ natText m.line ++ " column " ++ natText m.column

end ClusterRegister.Json
