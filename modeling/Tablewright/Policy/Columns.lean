/-
Structural columns: those that a policy adds to a table.

A group has one built-in column or a pair of them.  A tag gives the key another
type and the deletion mark another name; of a pair it keeps the column of that
name, and a tag that names neither keeps both and gives a warning.
-/
import Tablewright.Address
import Tablewright.Policy
import Tablewright.Text.Join
import Tablewright.Warning

namespace Tablewright.Policy

/-- The columns that the user gave. -/
def given : Policy → List Column
  | column c => [c]
  | columns cs => cs
  | disabled | enabled | tagged _ => []

/-- The key. -/
def idColumns : Policy → List Column
  | enabled => [(Column.plain "id" "serial").asPrimaryKey]
  | tagged type => [(Column.plain "id" type).asPrimaryKey]
  | policy => policy.given

/-- The deletion mark. -/
def softDeleteColumns : Policy → List Column
  | enabled => [(Column.plain "delete_at" "timestamp").withNullable true]
  | tagged name => [(Column.plain name "timestamp").withNullable true]
  | policy => policy.given

/-- A group with a pair of columns; `title` is the word for it. -/
def pairColumns (policy : Policy) (pair : List Column) (title : String) (table : TableAddress) :
    Warned (List Column) :=
  match policy with
  | enabled => pure pair
  | tagged name =>
    match pair.find? (·.name == name) with
    | some named => pure [named]
    | none => do
      warn .unknownStructuralColumn table.name
        ("Unknown " ++ title ++ " column '" ++ name ++ "', expected one of "
          ++ Text.join ", " (pair.map (·.name)) ++ "; adding both")
      pure pair
  | policy => pure policy.given

/-- The built-in timestamps. -/
def timestampPair : List Column :=
  ["create_at", "update_at"].map fun name =>
    ((Column.plain name "timestamp").withNullable false).withDefault (.text "CURRENT_TIMESTAMP")

/-- The built-in operators. -/
def operatorPair : List Column :=
  ["create_by", "update_by"].map fun name =>
    ((Column.plain name "integer").withNullable true).withDefault (.text "-1")

/-- When a row was made and changed. -/
def timestampColumns (policy : Policy) (table : TableAddress) : Warned (List Column) :=
  policy.pairColumns timestampPair "timestamp" table

/-- Who made and changed a row. -/
def operatorColumns (policy : Policy) (table : TableAddress) : Warned (List Column) :=
  policy.pairColumns operatorPair "operator" table

end Tablewright.Policy
