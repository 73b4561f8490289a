/-
The SQL type of a node.

A reference has the type of a key.  A list has the type of its items with `[]`
after it, and an enumeration has a type of its own.  The type of a
scalar follows from its declared type and its format; a declared type that is not
known is an SQL type already.
-/
import Tablewright.Address
import Tablewright.Node
import Tablewright.Warning

namespace Tablewright

/-- The SQL type of each known format of numbers. -/
def numericFormats : List (String × String) := [
  ("int4", "integer"), ("integer", "integer"), ("number", "integer"),
  ("int2", "smallint"), ("int8", "bigint"),
  ("uint", "serial"), ("uint4", "serial"), ("uint2", "smallserial"), ("uint8", "bigserial"),
  ("float", "real"), ("double", "double precision"),
  ("decimal", "decimal"), ("numeric", "numeric")]

/-- The SQL type of a number; a format that is not known gives a warning and an integer. -/
def numericType (format : Option String) (address : ColumnAddress) : Warned String :=
  match format with
  | none => pure "integer"
  | some format =>
    match numericFormats.lookup format with
    | some type => pure type
    | none => do
      warn .unknownNumericFormat address.name
        ("Unknown numeric format '" ++ format ++ "', falling back to integer")
      pure "integer"

/-- The SQL type of a text: whether a length limits it, and its name. -/
structure TextType where
  name : String
  limited : Bool

/-- The SQL type of each known format of texts. -/
def textFormats : List (String × TextType) := [
  ("binary", ⟨"text", false⟩), ("byte", ⟨"text", false⟩), ("text", ⟨"text", false⟩),
  ("date", ⟨"date", false⟩), ("date-time", ⟨"timestamp", false⟩), ("uuid", ⟨"uuid", false⟩),
  ("ipv4", ⟨"cidr", false⟩), ("ipv6", ⟨"cidr", false⟩),
  ("character", ⟨"character", true⟩), ("char", ⟨"character", true⟩),
  ("character varying", ⟨"character varying", true⟩), ("varchar", ⟨"character varying", true⟩)]

/-- A text type with the limit on its length, where both have one. -/
def TextType.text (t : TextType) (maxLength : Option Nat) : String :=
  match t.limited, maxLength with
  | true, some n => t.name ++ "(" ++ toString n ++ ")"
  | _, _ => t.name

/-- The SQL type of a text, when its format is known. -/
def textType? (format : Option String) (maxLength : Option Nat) : Option String :=
  match format with
  | none => some (TextType.text ⟨"character varying", true⟩ maxLength)
  | some format => (textFormats.lookup format).map (·.text maxLength)

namespace Node

/-- The SQL type of a scalar. -/
def scalarType (format : Option String) (traits : Traits) (address : ColumnAddress) : Warned String :=
  let type := traits.type.getD ""
  if type = "number" ∨ type = "integer" then numericType format address
  else if type = "string" then pure ((textType? format traits.facets.maxLength).getD type)
  else pure type

/-- The SQL type of an enumeration; only numbers and texts have members. -/
def enumType (traits : Traits) (address : ColumnAddress) : Except Failure String :=
  let type := traits.type.getD ""
  if type = "number" ∨ type = "integer" ∨ type = "string" then pure address.enumTypeName
  else throw (.enumBase address.name (if type = "" then "none" else type))

/-- The SQL type of the column that a node describes. -/
def sqlType (address : ColumnAddress) : Node → Checked String
  | reference .. => pure "serial"
  | list items _ => return (← items.sqlType address) ++ "[]"
  | bareList _ => throw (.missingItems address.name)
  | enumeration _ traits => liftExcept (enumType traits address)
  | scalar format traits => scalarType format traits address
  | object _ _ traits => pure (traits.type.getD "")

end Node

end Tablewright
