import SchemaGen.Text.Shown

/-!
# What is wrong with a JSON text

The first fault that a reader meets, from left to right, is the one reported.  A fault is either
in the text itself or in what the text says, when a value of another kind was expected.
-/

namespace SchemaGen.Json

/-- The first fault of a JSON text. -/
inductive Error where
  | endInValue
  | endInObject
  | endInList
  | endInText
  | expectedValue
  | expectedWord
  | expectedColon
  | expectedObjectComma
  | expectedListComma
  | keyNotText
  | trailingComma
  | trailingCharacters
  | invalidNumber
  | numberOutOfRange
  | invalidEscape
  | unpairedSurrogate
  | unfinishedPair
  | controlInText
  /-- A value of another kind was expected. -/
  | wrongKind (found expected : String)
  /-- A record written as a list ends too early. -/
  | wrongLength (found : Nat) (expected : String)
  | missingField (name : String)
  | duplicateField (name : String)
  deriving DecidableEq, Repr

namespace Error

/-- The text of the error. -/
def message : Error → String
  | endInValue => "EOF while parsing a value"
  | endInObject => "EOF while parsing an object"
  | endInList => "EOF while parsing a list"
  | endInText => "EOF while parsing a string"
  | expectedValue => "expected value"
  | expectedWord => "expected ident"
  | expectedColon => "expected \x60:\x60"
  | expectedObjectComma => "expected \x60,\x60 or \x60\x7d\x60"
  | expectedListComma => "expected \x60,\x60 or \x60]\x60"
  | keyNotText => "key must be a string"
  | trailingComma => "trailing comma"
  | trailingCharacters => "trailing characters"
  | invalidNumber => "invalid number"
  | numberOutOfRange => "number out of range"
  | invalidEscape => "invalid escape"
  | unpairedSurrogate => "lone leading surrogate in hex escape"
  | unfinishedPair => "unexpected end of hex escape"
  | controlInText => "control character (\\u0000-\\u001F) found while parsing a string"
  | wrongKind found expected => "invalid type: " ++ found ++ ", expected " ++ expected
  | wrongLength found expected =>
    "invalid length " ++ toString found ++ ", expected " ++ expected
  | missingField name => "missing field \x60" ++ name ++ "\x60"
  | duplicateField name => "duplicate field \x60" ++ name ++ "\x60"

end Error

end SchemaGen.Json
