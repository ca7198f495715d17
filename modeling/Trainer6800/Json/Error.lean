import Trainer6800.Json.Value
import Trainer6800.Text.Quoted

/-!
# Errors of reading JSON

Reading fails for one of three kinds of cause: the text ends too early, the text is not JSON, or
the JSON does not have the shape that is expected.  The types name the causes; the wording is in
the `message` functions.
-/

namespace Trainer6800.Json

/-- What was being read when the text ended. -/
inductive Place where
  | value
  | list
  | object
  | string
  deriving DecidableEq, Repr

/-- Why a text is not JSON. -/
inductive Malformation where
  | expectedColon
  | expectedElementEnd
  | expectedMemberEnd
  | expectedWord
  | expectedValue
  | invalidEscape
  | invalidNumber
  | numberOutOfRange
  | controlCharacter
  | keyNotString
  | loneSurrogate
  | trailingComma
  | trailingCharacters
  | unfinishedEscape
  deriving DecidableEq, Repr

/-- What stands where something else was expected. -/
inductive Found where
  | null
  | boolean (value : Bool)
  | integer (value : Int)
  | float (bits : UInt64)
  | string (value : String)
  | sequence
  | map
  /-- The name of a variant alone, without contents. -/
  | unitVariant
  deriving DecidableEq, Repr

/-- How JSON misses the expected shape. -/
inductive Mismatch where
  /-- Something of another type. -/
  | type (found : Found) (expected : String)
  /-- The right type, but not an admitted value. -/
  | value (found : Found) (expected : String)
  /-- A sequence with too few or too many elements. -/
  | length (count : Nat) (expected : String)
  | unknownVariant (name : String) (expected : List String)
  | missingField (name : String)
  | duplicateField (name : String)
  /-- A condition of the type that was read, in its own words. -/
  | condition (text : String)
  deriving DecidableEq, Repr

/-- Why reading failed. -/
inductive Error where
  | ended (place : Place)
  | malformed (cause : Malformation)
  | mismatch (cause : Mismatch)
  deriving DecidableEq, Repr

/-- What a place is called. -/
def Place.description : Place → String
  | value => "a value"
  | list => "a list"
  | object => "an object"
  | string => "a string"

/-- The wording of a malformation. -/
def Malformation.message : Malformation → String
  | expectedColon => "expected `:`"
  | expectedElementEnd => "expected `,` or `]`"
  | expectedMemberEnd => "expected `,` or `\x7d`"
  | expectedWord => "expected ident"
  | expectedValue => "expected value"
  | invalidEscape => "invalid escape"
  | invalidNumber => "invalid number"
  | numberOutOfRange => "number out of range"
  | controlCharacter => "control character (\\u0000-\\u001F) found while parsing a string"
  | keyNotString => "key must be a string"
  | loneSurrogate => "lone leading surrogate in hex escape"
  | trailingComma => "trailing comma"
  | trailingCharacters => "trailing characters"
  | unfinishedEscape => "unexpected end of hex escape"

/-- The wording of what was found. -/
def Found.description : Found → String
  | null => "null"
  | boolean b => "boolean `" ++ (if b then "true" else "false") ++ "`"
  | integer i => "integer `" ++ toString i ++ "`"
  | float bits => "floating point `" ++ Decimal.floatText bits ++ "`"
  | string s => "string " ++ Text.quoted s
  | sequence => "sequence"
  | map => "map"
  | unitVariant => "unit variant"

/-- Names between backquotes, as alternatives. -/
def alternatives : List String → String
  | [] => ""
  | [a] => "`" ++ a ++ "`"
  | [a, b] => "`" ++ a ++ "` or `" ++ b ++ "`"
  | names => "one of " ++ ", ".intercalate (names.map fun n => "`" ++ n ++ "`")

/-- The wording of a mismatch. -/
def Mismatch.message : Mismatch → String
  | type found expected => "invalid type: " ++ found.description ++ ", expected " ++ expected
  | value found expected => "invalid value: " ++ found.description ++ ", expected " ++ expected
  | length count expected => "invalid length " ++ toString count ++ ", expected " ++ expected
  | unknownVariant name expected =>
    "unknown variant `" ++ name ++ "`, expected " ++ alternatives expected
  | missingField name => "missing field `" ++ name ++ "`"
  | duplicateField name => "duplicate field `" ++ name ++ "`"
  | condition text => text

/-- The wording of an error. -/
def Error.message : Error → String
  | ended place => "EOF while parsing " ++ place.description
  | malformed cause => cause.message
  | mismatch cause => cause.message

/-- What a number is, where something else was expected. -/
def Number.found : Number → Found
  | .int i => .integer i
  | .float bits => .float bits

/-- What a value is, where something else was expected. -/
def Value.found : Value → Found
  | .null => .null
  | .bool b => .boolean b
  | .number n => n.found
  | .string s => .string s
  | .array _ => .sequence
  | .object _ => .map

end Trainer6800.Json
