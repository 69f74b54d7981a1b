import RemoteFiles.Text.Utf8

/-!
# Faults in JSON text

A fault says what is wrong and how much of the text was read when it showed.  It is reported
with the line and the column of the end of what was read, both counted in bytes.
-/

namespace RemoteFiles.Json

open RemoteFiles.Text (Glyph)

/-- What is wrong with a text, or with the value that it writes. -/
inductive Cause
  | endInValue
  | endInObject
  | endInList
  | endInString
  | expectedValue
  | expectedColon
  | expectedObjectCommaOrEnd
  | expectedListCommaOrEnd
  | expectedWord
  | keyNotString
  | trailingComma
  | trailingText
  | invalidNumber
  | numberOutOfRange
  | invalidEscape
  | loneSurrogate
  | endOfSurrogates
  | controlCharacter
  | notUtf8
  /-- A value of another type than the wanted one. -/
  | wrongType (found wanted : String)
  /-- A value outside the range of the wanted type. -/
  | wrongValue (found wanted : String)
  /-- An array with too few elements for what it should hold. -/
  | wrongLength (count : Nat) (wanted : String)
  | duplicateField (name : String)
  | missingField (name : String)
  deriving DecidableEq, Repr

/-- The text shown for a cause. -/
def Cause.message : Cause → String
  | .endInValue => "EOF while parsing a value"
  | .endInObject => "EOF while parsing an object"
  | .endInList => "EOF while parsing a list"
  | .endInString => "EOF while parsing a string"
  | .expectedValue => "expected value"
  | .expectedColon => "expected `:`"
  | .expectedObjectCommaOrEnd => "expected `,` or `\x7d`"
  | .expectedListCommaOrEnd => "expected `,` or `]`"
  | .expectedWord => "expected ident"
  | .keyNotString => "key must be a string"
  | .trailingComma => "trailing comma"
  | .trailingText => "trailing characters"
  | .invalidNumber => "invalid number"
  | .numberOutOfRange => "number out of range"
  | .invalidEscape => "invalid escape"
  | .loneSurrogate => "lone leading surrogate in hex escape"
  | .endOfSurrogates => "unexpected end of hex escape"
  | .controlCharacter => "control character (\\u0000-\\u001F) found while parsing a string"
  | .notUtf8 => "invalid unicode code point"
  | .wrongType found wanted => "invalid type: " ++ found ++ ", expected " ++ wanted
  | .wrongValue found wanted => "invalid value: " ++ found ++ ", expected " ++ wanted
  | .wrongLength count wanted =>
    "invalid length " ++ toString count ++ ", expected " ++ wanted
  | .duplicateField name => "duplicate field `" ++ name ++ "`"
  | .missingField name => "missing field `" ++ name ++ "`"

/-- A fault: its cause, and how many bytes of the text were not read when it showed. -/
structure Fault where
  cause : Cause
  unread : Nat
  deriving DecidableEq, Repr

namespace Fault

/-- A fault after everything before some glyphs was read. -/
def before (cause : Cause) (rest : List Glyph) : Fault :=
  ⟨cause, Glyph.totalSize rest⟩

/-- A fault that the first byte of some glyphs shows; at the end of the text there is none. -/
def atNext (cause : Cause) (rest : List Glyph) : Fault :=
  ⟨cause, Glyph.totalSize rest - 1⟩

/-- The line that holds the end of the first `count` bytes of a text, and how many of these
bytes are on it; lines are counted from one. -/
def position (bytes : List UInt8) (count : Nat) : Nat × Nat :=
  let lastLine := (bytes.take count).reverse.takeWhile (· != 10)
  ((bytes.take count).count 10 + 1, lastLine.length)

/-- The text shown for a fault in a text of these bytes. -/
def report (bytes : List UInt8) (f : Fault) : String :=
  let (line, column) := position bytes (bytes.length - f.unread)
  f.cause.message ++ " at line " ++ toString line ++ " column " ++ toString column

end Fault

end RemoteFiles.Json
