/-
What can be wrong with a structured text: its spelling, or what stands where something else is expected.
-/
import EntitySchema.Json.Value
import EntitySchema.Text.Quoted

namespace EntitySchema.Json

open EntitySchema.Text

/-- what stands where something else is expected -/
inductive Found where
  | scalar (s : Scalar)
  | list
  | object
deriving DecidableEq, Repr

/-- why a text cannot be read -/
inductive Fault where
  /-- the text ends where a value must start, or inside a word or number -/
  | endInValue
  /-- the text ends inside quotes -/
  | endInText
  /-- the text ends inside a list -/
  | endInList
  /-- the text ends inside an object -/
  | endInObject
  /-- no value starts with this character -/
  | expectedValue
  /-- a word other than `null`, `true` and `false` -/
  | expectedWord
  /-- a number breaks the rules of digits -/
  | badNumber
  /-- a number past the greatest binary number -/
  | numberOutOfRange
  /-- a raw control character inside quotes -/
  | controlCharacter
  /-- no escape has this name -/
  | unknownEscape
  /-- four digits of base sixteen are required -/
  | badHexDigit
  /-- half of a surrogate pair that cannot be completed -/
  | loneSurrogate
  /-- the second half of a surrogate pair does not follow -/
  | unfinishedSurrogate
  | expectedColon
  /-- neither a comma nor the end of the list follows an item -/
  | expectedItemOrEnd
  /-- neither a comma nor the end of the object follows a member -/
  | expectedMemberOrEnd
  | keyNotText
  | trailingComma
  | trailingCharacters
  /-- too many lists and objects inside one another -/
  | tooDeep
  | mismatch (found : Found) (expected : String)
  | repeatedMember (name : String)
  | missingMember (name : String)
  /-- a record written as a list lacks an item that it cannot do without -/
  | tooFewItems (present : Nat) (expected : String) (size : Nat)
  | unknownChoice (name : String) (choices : List String)
  /-- a value of none of the accepted kinds -/
  | noVariant (kind : String)
deriving DecidableEq, Repr

def Found.describe : Found → String
  | .scalar .null => "null"
  | .scalar (.bool b) => "boolean `" ++ (if b then "true" else "false") ++ "`"
  | .scalar (.number (.real x)) => "floating point `" ++ x.text ++ "`"
  | .scalar (.number n) => "integer `" ++ n.text ++ "`"
  | .scalar (.text s) => "string " ++ quoted s
  | .list => "sequence"
  | .object => "map"

/-- names in backquotes, with commas between them -/
def listNames (names : List String) : String := ", ".intercalate (names.map fun n => "`" ++ n ++ "`")

/-- the wording of a fault, without the place in the text: a caller may be shown the line and column after it
(` at line 1 column 5`), but no fault here keeps them -/
def Fault.message : Fault → String
  | .endInValue => "EOF while parsing a value"
  | .endInText => "EOF while parsing a string"
  | .endInList => "EOF while parsing a list"
  | .endInObject => "EOF while parsing an object"
  | .expectedValue => "expected value"
  | .expectedWord => "expected ident"
  | .badNumber => "invalid number"
  | .numberOutOfRange => "number out of range"
  | .controlCharacter => "control character (\\u0000-\\u001F) found while parsing a string"
  | .unknownEscape => "invalid escape"
  | .badHexDigit => "invalid escape"
  | .loneSurrogate => "lone leading surrogate in hex escape"
  | .unfinishedSurrogate => "unexpected end of hex escape"
  | .expectedColon => "expected `:`"
  | .expectedItemOrEnd => "expected `,` or `]`"
  | .expectedMemberOrEnd => "expected `,` or `\x7d`"
  | .keyNotText => "key must be a string"
  | .trailingComma => "trailing comma"
  | .trailingCharacters => "trailing characters"
  | .tooDeep => "recursion limit exceeded"
  | .mismatch found expected => "invalid type: " ++ found.describe ++ ", expected " ++ expected
  | .repeatedMember name => "duplicate field `" ++ name ++ "`"
  | .missingMember name => "missing field `" ++ name ++ "`"
  | .tooFewItems present expected size =>
    "invalid length " ++ toString present ++ ", expected " ++ expected ++ " with " ++ toString size ++
      (if size = 1 then " element" else " elements")
  | .unknownChoice name choices => "unknown variant `" ++ name ++ "`, expected one of " ++ listNames choices
  | .noVariant kind => "data did not match any variant of untagged enum " ++ kind

end EntitySchema.Json
