/-
Why a structured text cannot be read.

The causes are of two kinds.  Some say that the text is not well formed, and
some that it is well formed but holds something other than what was asked for.
A reader meets them in the order of the text and reports the first one.
-/
import Tablewright.Number
import Tablewright.Text.Shown

namespace Tablewright.Document

/-- What a text may break off inside. -/
inductive Place
  | value | list | object | text
deriving DecidableEq

/-- A place with its article. -/
def Place.describe : Place → String
  | value => "a value"
  | list => "a list"
  | object => "an object"
  | text => "a string"

/-- What stands where a reader asked for something else. -/
inductive Found
  | null
  | flag (value : Bool)
  | number (value : Number)
  | text (value : String)
  | map
  | sequence
deriving DecidableEq

/-- A found thing in words, with its value where it has one. -/
def Found.describe : Found → String
  | null => "null"
  | flag value => "boolean `" ++ (if value then "true" else "false") ++ "`"
  | number (.whole value fits) => "integer `" ++ (Number.whole value fits).text ++ "`"
  | number (.binary value) => "floating point `" ++ (Number.binary value).text ++ "`"
  | text value => "string " ++ Text.shown value
  | map => "map"
  | sequence => "sequence"

/-- Why a structured text cannot be read. -/
inductive Error
  | endOfText (inside : Place)
  | expectedValue
  | expectedWord
  | expectedColon
  | expectedCommaInObject
  | expectedCommaInList
  | trailingComma
  | trailingText
  | keyNotText
  | malformedNumber
  | numberRange
  | malformedEscape
  | loneSurrogate
  | unpairedSurrogate
  | controlCharacter
  | tooDeep
  | wrongType (found : Found) (wanted : String)
  | wrongValue (found : Found) (wanted : String)
  | wrongLength (length : Nat) (wanted : String)
  | missingField (name : String)
  | repeatedField (name : String)
  | unknownVariant (name : String) (known : String)
  | noVariant (title : String)
deriving DecidableEq

/-- The wording of a cause. -/
def Error.message : Error → String
  | endOfText inside => "EOF while parsing " ++ inside.describe
  | expectedValue => "expected value"
  | expectedWord => "expected ident"
  | expectedColon => "expected `:`"
  | expectedCommaInObject => "expected `,` or `\x7d`"
  | expectedCommaInList => "expected `,` or `]`"
  | trailingComma => "trailing comma"
  | trailingText => "trailing characters"
  | keyNotText => "key must be a string"
  | malformedNumber => "invalid number"
  | numberRange => "number out of range"
  | malformedEscape => "invalid escape"
  | loneSurrogate => "lone leading surrogate in hex escape"
  | unpairedSurrogate => "unexpected end of hex escape"
  | controlCharacter => "control character (\\u0000-\\u001F) found while parsing a string"
  | tooDeep => "recursion limit exceeded"
  | wrongType found wanted => "invalid type: " ++ found.describe ++ ", expected " ++ wanted
  | wrongValue found wanted => "invalid value: " ++ found.describe ++ ", expected " ++ wanted
  | wrongLength length wanted => "invalid length " ++ toString length ++ ", expected " ++ wanted
  | missingField name => "missing field `" ++ name ++ "`"
  | repeatedField name => "duplicate field `" ++ name ++ "`"
  | unknownVariant name known => "unknown variant `" ++ name ++ "`, expected " ++ known
  | noVariant title => "data did not match any variant of untagged enum " ++ title

/-- What reading gives: a value or the first cause that prevents it. -/
abbrev Read (α : Type) := Except Error α

end Tablewright.Document
