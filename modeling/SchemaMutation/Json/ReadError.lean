import SchemaMutation.Json.Basic
import SchemaMutation.Text.Characters

/-!
# What can be wrong with a JSON text

`Fault` lists the faults of the text itself, `ReadError` adds those of its shape: a value of another type than the
reader wants, or a record with a field too few or twice. Reading stops at the first error in the order of the text.
-/

namespace SchemaMutation.Json

inductive Fault where
  | endInValue
  | endInList
  | endInObject
  | endInString
  | expectedValue
  | expectedWord
  | expectedColon
  | expectedListCommaOrEnd
  | expectedObjectCommaOrEnd
  | trailingComma
  | keyNotString
  | invalidNumber
  | numberOutOfRange
  | controlCharacter
  | invalidEscape
  | endOfHexEscape
  | loneSurrogate
  | nestedTooDeep
  | trailingCharacters
deriving DecidableEq, Repr

def Fault.message : Fault → String
  | .endInValue => "EOF while parsing a value"
  | .endInList => "EOF while parsing a list"
  | .endInObject => "EOF while parsing an object"
  | .endInString => "EOF while parsing a string"
  | .expectedValue => "expected value"
  | .expectedWord => "expected ident"
  | .expectedColon => "expected `:`"
  | .expectedListCommaOrEnd => "expected `,` or `]`"
  | .expectedObjectCommaOrEnd => "expected `,` or `\x7d`"
  | .trailingComma => "trailing comma"
  | .keyNotString => "key must be a string"
  | .invalidNumber => "invalid number"
  | .numberOutOfRange => "number out of range"
  | .controlCharacter => "control character (\\u0000-\\u001F) found while parsing a string"
  | .invalidEscape => "invalid escape"
  | .endOfHexEscape => "unexpected end of hex escape"
  | .loneSurrogate => "lone leading surrogate in hex escape"
  | .nestedTooDeep => "recursion limit exceeded"
  | .trailingCharacters => "trailing characters"

/-- What stood where a value of another type was wanted. -/
inductive Found where
  | null
  | bool (value : Bool)
  | number (value : Number)
  | string (value : String)
  | sequence
  | map
  | unitVariant
deriving DecidableEq, Repr

def Found.text : Found → String
  | .null => "null"
  | .bool b => "boolean `" ++ (if b then "true" else "false") ++ "`"
  | .number (.int i) => "integer `" ++ toString i ++ "`"
  | .number (.double x) => "floating point `" ++ (Number.double x).text ++ "`"
  | .string s => "string " ++ Text.shown s
  | .sequence => "sequence"
  | .map => "map"
  | .unitVariant => "unit variant"

inductive ReadError where
  | malformed (fault : Fault)
  | missingField (name : String)
  | duplicateField (name : String)
  | invalidType (found : Found) (wanted : String)
  | invalidValue (found : Found) (wanted : String)
  | unknownVariant (name : String) (names : List String)
  /-- A record in the form of an array ends after this many fields. -/
  | invalidLength (length : Nat) (wanted : String)
deriving DecidableEq, Repr

def ticked (name : String) : String := "`" ++ name ++ "`"

def oneOf : List String → String
  | [a] => "expected " ++ ticked a
  | [a, b] => "expected " ++ ticked a ++ " or " ++ ticked b
  | names => "expected one of " ++ ", ".intercalate (names.map ticked)

def ReadError.message : ReadError → String
  | .malformed fault => fault.message
  | .missingField name => "missing field " ++ ticked name
  | .duplicateField name => "duplicate field " ++ ticked name
  | .invalidType found wanted => "invalid type: " ++ found.text ++ ", expected " ++ wanted
  | .invalidValue found wanted => "invalid value: " ++ found.text ++ ", expected " ++ wanted
  | .unknownVariant name names => "unknown variant " ++ ticked name ++ ", " ++ oneOf names
  | .invalidLength length wanted => "invalid length " ++ toString length ++ ", expected " ++ wanted

end SchemaMutation.Json
