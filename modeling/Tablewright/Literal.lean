/-
Literals: the values a model writes down.

Column defaults and the members of an enumeration are flags, numbers or texts.
A default is written into a script as it stands, because it may be any
expression; a member is written as an SQL value.
-/
import Tablewright.Document.Value
import Tablewright.Sql.Quoted

namespace Tablewright

open Document

/-- A flag, a number or a text. -/
inductive Literal
  | flag (value : Bool)
  | number (value : Number)
  | text (value : String)
deriving DecidableEq

namespace Literal

/-- The bare text of a literal. -/
def display : Literal → String
  | flag value => if value then "true" else "false"
  | number value => value.text
  | text value => value

/-- A literal as an SQL value: a text is quoted, everything else stands bare. -/
def sql : Literal → String
  | text value => Sql.quote value
  | literal => literal.display

/-- The literal a value is, if it is one. -/
def ofValue? : Value → Option Literal
  | .scalar (.flag value) => some (flag value)
  | .scalar (.number value) => some (number value)
  | .scalar (.text value) => some (text value)
  | _ => none

/-- Reads a literal. -/
def read (t : Tree) : Read Literal :=
  t.choose "Literal" ofValue?

/-- A literal as a value. -/
def toValue : Literal → Value
  | flag value => .scalar (.flag value)
  | number value => .scalar (.number value)
  | text value => .scalar (.text value)

end Literal

end Tablewright
