import SqlClient.Text.Digits
import SqlClient.Text.Utf8

/-!
# Faults of a JSON document

What is wrong with a document, and the line and column where it was noticed. While a document is read
a place is the number of bytes that are left, so it depends on the rest of the text alone.
-/

namespace SqlClient.Json

/-- What is wrong with a document. -/
inductive Fault where
  | endInList
  | endInObject
  | endInString
  | endInValue
  | expectedColon
  | expectedListCommaOrEnd
  | expectedObjectCommaOrEnd
  | expectedWord
  | expectedValue
  | badEscape
  | badNumber
  | numberOutOfRange
  | controlCharacter
  | keyNotString
  | loneSurrogate
  | halfSurrogatePair
  | trailingComma
  | trailingCharacters
  | tooDeep
  /-- A value of another type than the document calls for. -/
  | wrongType (found expected : String)
  /-- A value of the right type outside its range. -/
  | wrongValue (found expected : String)
  /-- A field that was given before. -/
  | duplicateField (name : String)
  deriving DecidableEq, Repr

/-- The fault in words. -/
def Fault.message : Fault → String
  | .endInList => "EOF while parsing a list"
  | .endInObject => "EOF while parsing an object"
  | .endInString => "EOF while parsing a string"
  | .endInValue => "EOF while parsing a value"
  | .expectedColon => "expected `:`"
  | .expectedListCommaOrEnd => "expected `,` or `]`"
  | .expectedObjectCommaOrEnd => "expected `,` or `\x7d`"
  | .expectedWord => "expected ident"
  | .expectedValue => "expected value"
  | .badEscape => "invalid escape"
  | .badNumber => "invalid number"
  | .numberOutOfRange => "number out of range"
  | .controlCharacter => "control character (\\u0000-\\u001F) found while parsing a string"
  | .keyNotString => "key must be a string"
  | .loneSurrogate => "lone leading surrogate in hex escape"
  | .halfSurrogatePair => "unexpected end of hex escape"
  | .trailingComma => "trailing comma"
  | .trailingCharacters => "trailing characters"
  | .tooDeep => "recursion limit exceeded"
  | .wrongType found expected => "invalid type: " ++ found ++ ", expected " ++ expected
  | .wrongValue found expected => "invalid value: " ++ found ++ ", expected " ++ expected
  | .duplicateField name => "duplicate field `" ++ name ++ "`"

/-- A fault, and how many bytes of the document are left where it was noticed. -/
structure Failure where
  fault : Fault
  bytesLeft : Nat
  deriving DecidableEq

namespace Failure

/-- A fault noticed before `rest`. -/
def before (fault : Fault) (rest : List Char) : Failure := ⟨fault, Text.byteSize rest⟩

/-- A fault noticed at the first byte of `rest`, or at the end if nothing is left. -/
def atNext (fault : Fault) (rest : List Char) : Failure := ⟨fault, Text.byteSize rest - 1⟩

/-- The line and the column, both in bytes, after `index` bytes of a text. Lines count from 1. -/
def place (line column : Nat) : List Char → Nat → Nat × Nat
  | [], _ => (line, column)
  | c :: cs, index =>
    if c.utf8Size ≤ index then
      if c = '\n' then place (line + 1) 0 cs (index - c.utf8Size)
      else place line (column + c.utf8Size) cs (index - c.utf8Size)
    else (line, column + index)

/-- The fault of a document, with its place. -/
def describe (document : String) (f : Failure) : String :=
  let cs := document.toList
  let (line, column) := place 1 0 cs (Text.byteSize cs - f.bytesLeft)
  f.fault.message ++ " at line " ++ Text.digits line ++ " column " ++ Text.digits column

end Failure

/-- What a reader gives: a value and the rest of the text, or a failure. -/
abbrev Reader (α : Type) := List Char → Except Failure (α × List Char)

end SqlClient.Json
