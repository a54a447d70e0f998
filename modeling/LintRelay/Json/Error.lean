import LintRelay.Decimal.Shortest
import LintRelay.Text.Quoted

/-!
# Why JSON is not read

A text that is not JSON and a value that has not the shape asked for are refused with one kind of
error. `ReadError.message` is the wording.
-/

namespace LintRelay.Json

/-- What was met where something else was expected. -/
inductive Met where
  | null
  | bool (value : Bool)
  | integer (value : Int)
  | float (value : Decimal.Binary64)
  | string (value : String)
  | sequence
  | map
  deriving Repr, DecidableEq

/-- Why a text or a value is refused. -/
inductive ReadError where
  | expectedValue
  | expectedIdent
  | eofValue
  | eofList
  | eofObject
  | eofString
  | expectedListCommaOrEnd
  | expectedObjectCommaOrEnd
  | expectedColon
  | trailingComma
  | trailingCharacters
  | keyNotString
  | invalidNumber
  | numberOutOfRange
  | invalidEscape
  | unexpectedEndOfHexEscape
  | loneSurrogate
  | controlCharacter
  | nestedTooDeep
  | missingField (name : String)
  | duplicateField (name : String)
  | invalidType (met : Met) (expected : String)
  | invalidValue (met : Met) (expected : String)
  | invalidLength (length : Nat) (expected : String)
  | unknownVariant (met : String) (expected : List String)
  | custom (text : String)
  deriving Repr, DecidableEq

def Met.text : Met → String
  | .null => "null"
  | .bool true => "boolean `true`"
  | .bool false => "boolean `false`"
  | .integer n => "integer `" ++ toString n ++ "`"
  | .float x => "floating point `" ++ String.ofList x.text ++ "`"
  | .string s => "string " ++ Text.quote s
  | .sequence => "sequence"
  | .map => "map"

/-- The names of variants as a message lists them. -/
def variantList : List String → String
  | [a] => "`" ++ a ++ "`"
  | [a, b] => "`" ++ a ++ "` or `" ++ b ++ "`"
  | names => "one of " ++ ", ".intercalate (names.map (fun n => "`" ++ n ++ "`"))

def elementsText (n : Nat) : String := toString n ++ (if n == 1 then " element" else " elements")

/-- A structure that is given as a list of its fields. -/
def listedText (name : String) (fields : Nat) : String :=
  "struct " ++ name ++ " with " ++ elementsText fields

def ReadError.message : ReadError → String
  | .expectedValue => "expected value"
  | .expectedIdent => "expected ident"
  | .eofValue => "EOF while parsing a value"
  | .eofList => "EOF while parsing a list"
  | .eofObject => "EOF while parsing an object"
  | .eofString => "EOF while parsing a string"
  | .expectedListCommaOrEnd => "expected `,` or `]`"
  | .expectedObjectCommaOrEnd => "expected `,` or `\x7d`"
  | .expectedColon => "expected `:`"
  | .trailingComma => "trailing comma"
  | .trailingCharacters => "trailing characters"
  | .keyNotString => "key must be a string"
  | .invalidNumber => "invalid number"
  | .numberOutOfRange => "number out of range"
  | .invalidEscape => "invalid escape"
  | .unexpectedEndOfHexEscape => "unexpected end of hex escape"
  | .loneSurrogate => "lone leading surrogate in hex escape"
  | .controlCharacter => "control character (\\u0000-\\u001F) found while parsing a string"
  | .nestedTooDeep => "recursion limit exceeded"
  | .missingField name => "missing field `" ++ name ++ "`"
  | .duplicateField name => "duplicate field `" ++ name ++ "`"
  | .invalidType met expected => "invalid type: " ++ met.text ++ ", expected " ++ expected
  | .invalidValue met expected => "invalid value: " ++ met.text ++ ", expected " ++ expected
  | .invalidLength n expected => "invalid length " ++ toString n ++ ", expected " ++ expected
  | .unknownVariant met expected =>
    "unknown variant `" ++ met ++ "`, expected " ++ variantList expected
  | .custom text => text

end LintRelay.Json
