import TodoMarkers.Decimal.Shortest
import TodoMarkers.Text.Quoted
import TodoMarkers.Text.Utf8

/-! Faults of JSON texts: what is wrong, and where. -/

namespace TodoMarkers.Json

/-- A value that is not of the wanted sort, as messages describe it. -/
inductive Found where
  | null
  | bool (value : Bool)
  | integer (value : Int)
  | float (value : Float)
  | string (value : String)
  | sequence
  | map

/-- The words for a value that is not of the wanted sort. -/
def Found.words : Found → String
  | .null => "null"
  | .bool true => "boolean `true`"
  | .bool false => "boolean `false`"
  | .integer value => "integer `" ++ toString value ++ "`"
  | .float value => "floating point `" ++ Decimal.textOfFloat value ++ "`"
  | .string value => "string " ++ Text.quoted value
  | .sequence => "sequence"
  | .map => "map"

/-- What is wrong with a JSON text. -/
inductive Cause where
  | endInArray
  | endInObject
  | endInString
  | endInValue
  | expectedColon
  | expectedArrayEnd
  | expectedObjectEnd
  | expectedWord
  | expectedValue
  | invalidEscape
  | invalidNumber
  | numberOutOfRange
  | controlCharacter
  | keyNotString
  | loneSurrogate
  | unfinishedSurrogate
  | trailingComma
  | trailingCharacters
  | tooDeep
  /-- A value of another sort than the wanted one. -/
  | mismatch (found : Found) (expected : String)
  /-- A word that is none of the wanted ones. -/
  | unknownWord (found : String) (expected : List String)
  | duplicateField (name : String)
  | missingField (name : String)
  /-- An array that ends before all fields are given. -/
  | tooShort (length : Nat) (expected : String)

/-- Words between backquotes, as a choice. -/
def choiceWords : List String → String
  | [] => "there are no variants"
  | [word] => "expected `" ++ word ++ "`"
  | [first, second] => "expected `" ++ first ++ "` or `" ++ second ++ "`"
  | words => "expected one of " ++ ", ".intercalate (words.map fun word => "`" ++ word ++ "`")

/-- The sentence for what is wrong. -/
def Cause.message : Cause → String
  | .endInArray => "EOF while parsing a list"
  | .endInObject => "EOF while parsing an object"
  | .endInString => "EOF while parsing a string"
  | .endInValue => "EOF while parsing a value"
  | .expectedColon => "expected `:`"
  | .expectedArrayEnd => "expected `,` or `]`"
  | .expectedObjectEnd => "expected `,` or `\x7d`"
  | .expectedWord => "expected ident"
  | .expectedValue => "expected value"
  | .invalidEscape => "invalid escape"
  | .invalidNumber => "invalid number"
  | .numberOutOfRange => "number out of range"
  | .controlCharacter => "control character (\\u0000-\\u001F) found while parsing a string"
  | .keyNotString => "key must be a string"
  | .loneSurrogate => "lone leading surrogate in hex escape"
  | .unfinishedSurrogate => "unexpected end of hex escape"
  | .trailingComma => "trailing comma"
  | .trailingCharacters => "trailing characters"
  | .tooDeep => "recursion limit exceeded"
  | .mismatch found expected => "invalid type: " ++ found.words ++ ", expected " ++ expected
  | .unknownWord found expected =>
    "unknown variant `" ++ found ++ "`, " ++ choiceWords expected
  | .duplicateField name => "duplicate field `" ++ name ++ "`"
  | .missingField name => "missing field `" ++ name ++ "`"
  | .tooShort length expected => "invalid length " ++ toString length ++ ", expected " ++ expected

/-- A fault and its place. -/
structure Fault where
  /-- What is wrong. -/
  cause : Cause
  /-- The number of bytes that follow the place of the fault. -/
  left : Nat

namespace Fault

/-- A fault just before the rest of a text. -/
def before (cause : Cause) (rest : List Char) : Fault :=
  ⟨cause, Text.byteLength rest⟩

/-- A fault just after the first byte of the rest of a text, or at its end. -/
def after (cause : Cause) (rest : List Char) : Fault :=
  ⟨cause, Text.byteLength rest - 1⟩

/-- A fault at the end of a text. -/
def atEnd (cause : Cause) : Fault :=
  ⟨cause, 0⟩

/-- The line and the column, in bytes, that lie a number of bytes further on. -/
def advance (line column : Nat) : Nat → List Char → Nat × Nat
  | _, [] => (line, column)
  | bytes, c :: rest =>
    if bytes < c.utf8Size then (line, column + bytes)
    else if c = '\n' then advance (line + 1) 0 (bytes - c.utf8Size) rest
    else advance line (column + c.utf8Size) (bytes - c.utf8Size) rest

/-- The sentence for a fault of a text, with its line and its column. -/
def message (fault : Fault) (text : String) : String :=
  let chars := text.toList
  let (line, column) := advance 1 0 (Text.byteLength chars - fault.left) chars
  fault.cause.message ++ " at line " ++ toString line ++ " column " ++ toString column

end Fault

/-- What reading a part of a text gives: a value and the rest of the text, or a fault. -/
abbrev Reading (α : Type) := Except Fault (α × List Char)

end TodoMarkers.Json
