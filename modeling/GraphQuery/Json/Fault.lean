import GraphQuery.Json.Cursor
import GraphQuery.Json.Printer
import GraphQuery.Text.Display

/-
This file holds what can be wrong with a JSON text and with the data in it.
-/

namespace GraphQuery.Json

/-- These are the flaws of the text itself. -/
inductive Flaw where
  | endInValue
  | endInList
  | endInObject
  | endInString
  | expectedColon
  | expectedItemSeparator
  | expectedMemberSeparator
  | expectedWord
  | expectedValue
  | invalidEscape
  | invalidNumber
  | numberOutOfRange
  | invalidCharacter
  | controlCharacter
  | keyNotString
  | loneSurrogate
  | brokenSurrogatePair
  | trailingComma
  | trailingCharacters
  | tooDeep
deriving DecidableEq, Repr

def Flaw.message : Flaw → String
  | endInValue => "EOF while parsing a value"
  | endInList => "EOF while parsing a list"
  | endInObject => "EOF while parsing an object"
  | endInString => "EOF while parsing a string"
  | expectedColon => "expected `:`"
  | expectedItemSeparator => "expected `,` or `]`"
  | expectedMemberSeparator => "expected `,` or `\x7d`"
  | expectedWord => "expected ident"
  | expectedValue => "expected value"
  | invalidEscape => "invalid escape"
  | invalidNumber => "invalid number"
  | numberOutOfRange => "number out of range"
  | invalidCharacter => "invalid unicode code point"
  | controlCharacter => "control character (\\u0000-\\u001F) found while parsing a string"
  | keyNotString => "key must be a string"
  | loneSurrogate => "lone leading surrogate in hex escape"
  | brokenSurrogatePair => "unexpected end of hex escape"
  | trailingComma => "trailing comma"
  | trailingCharacters => "trailing characters"
  | tooDeep => "recursion limit exceeded"

/-- This is what stands in place of the expected data. -/
inductive Found where
  | null
  | boolean (value : Bool)
  | integer (value : Int)
  | real (value : Float)
  | string (content : String)
  | sequence
  | map

namespace Found

def message : Found → String
  | null => "null"
  | boolean value => "boolean `" ++ (if value then "true" else "false") ++ "`"
  | integer value => "integer `" ++ String.ofList (Decimal.integerChars value) ++ "`"
  | real value => "floating point `" ++ String.ofList (realChars value) ++ "`"
  | string content => "string " ++ Text.display content
  | sequence => "sequence"
  | map => "map"

def ofJson : Json → Found
  | .null => null
  | .boolean value => boolean value
  | .integer value => integer value
  | .real value => real value
  | .string content => string content
  | .array _ => sequence
  | .object _ => map

end Found

/-- Data does not fit the shape that is asked for. -/
inductive Mismatch where
  | wrongType (found : Found) (expected : String)
  | wrongValue (found : Found) (expected : String)
  | wrongLength (length : Nat) (expected : String)
  | missingField (name : String)
  | duplicateField (name : String)

def Mismatch.message : Mismatch → String
  | wrongType found expected => "invalid type: " ++ found.message ++ ", expected " ++ expected
  | wrongValue found expected => "invalid value: " ++ found.message ++ ", expected " ++ expected
  | wrongLength length expected =>
    "invalid length " ++ String.ofList (Decimal.digitChars length) ++ ", expected " ++ expected
  | missingField name => "missing field `" ++ name ++ "`"
  | duplicateField name => "duplicate field `" ++ name ++ "`"

inductive Cause where
  | flawed (flaw : Flaw)
  | mismatched (mismatch : Mismatch)

def Cause.message : Cause → String
  | flawed flaw => flaw.message
  | mismatched mismatch => mismatch.message

/-- A fault names its cause and the position at which reading stopped. -/
structure Fault where
  cause : Cause
  position : Position

namespace Fault

def ofFlaw (flaw : Flaw) (position : Position) : Fault := ⟨.flawed flaw, position⟩

def ofMismatch (mismatch : Mismatch) (position : Position) : Fault :=
  ⟨.mismatched mismatch, position⟩

def message (fault : Fault) : String :=
  fault.cause.message ++ " at line " ++ String.ofList (Decimal.digitChars fault.position.line) ++
    " column " ++ String.ofList (Decimal.digitChars fault.position.column)

end Fault

end GraphQuery.Json
