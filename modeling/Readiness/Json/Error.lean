import Readiness.Json.Cursor
import Readiness.Json.Value
import Readiness.Text.Quoted

/-! # Errors of reading

Why a document cannot be read, and where the reader stood then. A text may be no document at all,
or a document of another shape than the expected one. -/
namespace Readiness.Json

inductive Fault where
  | endInList
  | endInObject
  | endInString
  | endInValue
  | colonExpected
  | listEndExpected
  | objectEndExpected
  | wordExpected
  | valueExpected
  | badEscape
  | badNumber
  | numberTooLarge
  | controlCharacter
  | keyNotString
  | loneSurrogate
  | unfinishedPair
  | trailingComma
  | trailingText
  | tooDeep
  /-- A value of another kind than the expected one. -/
  | wrongKind (found expected : String)
  /-- A value of the right kind that is not the expected one. -/
  | wrongValue (found expected : String)
  | duplicateField (name : String)
  | missingField (name : String)
  /-- A text that does not write what it should. -/
  | badText (reason : String)
  deriving DecidableEq, Repr

def Fault.text : Fault → String
  | endInList => "EOF while parsing a list"
  | endInObject => "EOF while parsing an object"
  | endInString => "EOF while parsing a string"
  | endInValue => "EOF while parsing a value"
  | colonExpected => "expected `:`"
  | listEndExpected => "expected `,` or `]`"
  | objectEndExpected => "expected `,` or `\x7d`"
  | wordExpected => "expected ident"
  | valueExpected => "expected value"
  | badEscape => "invalid escape"
  | badNumber => "invalid number"
  | numberTooLarge => "number out of range"
  | controlCharacter => "control character (\\u0000-\\u001F) found while parsing a string"
  | keyNotString => "key must be a string"
  | loneSurrogate => "lone leading surrogate in hex escape"
  | unfinishedPair => "unexpected end of hex escape"
  | trailingComma => "trailing comma"
  | trailingText => "trailing characters"
  | tooDeep => "recursion limit exceeded"
  | wrongKind found expected => "invalid type: " ++ found ++ ", expected " ++ expected
  | wrongValue found expected => "invalid value: " ++ found ++ ", expected " ++ expected
  | duplicateField name => "duplicate field `" ++ name ++ "`"
  | missingField name => "missing field `" ++ name ++ "`"
  | badText reason => reason

structure Error where
  fault : Fault
  place : Position
  deriving DecidableEq, Repr

def Error.message (e : Error) : String := e.fault.text ++ " at " ++ e.place.text

/-- What a value is called where another one was expected. -/
def Value.found : Value → String
  | .null => "null"
  | .bool b => "boolean `" ++ (if b then "true" else "false") ++ "`"
  | .number (.whole n) => "integer `" ++ toString n ++ "`"
  | .number (.real x) => "floating point `" ++ (Number.real x).text ++ "`"
  | .string s => "string " ++ Text.quoted s
  | .array _ => "sequence"
  | .object _ => "map"

end Readiness.Json
