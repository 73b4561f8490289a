/-
Scripts: blueprints as SQL.

A script is one transaction.  It creates the schema, then the enumeration types,
then the tables, and then sets the comments; a kind that has nothing to create
leaves no gap.  Writing warns of what is empty, and fails only at a column
without a name or without a type.
-/
import Tablewright.Blueprint
import Tablewright.Text.Blank
import Tablewright.Text.Join
import Tablewright.Text.UpperCase
import Tablewright.Warning

namespace Tablewright.Script

/-- The statement that creates the schema. -/
def schema (name : String) : String :=
  "CREATE SCHEMA " ++ name ++ " IF NOT EXISTS;"

/-- The values of an enumeration type, as they stand between the parentheses. -/
def members (literals : List Literal) : String :=
  Text.join ", " (literals.map Literal.sql)

/-- The statement that creates an enumeration type. -/
def enumType (t : EnumType) : Warned String := do
  if t.members.isEmpty then
    warn .emptyEnum t.name "Enum type has no values"
  pure ("CREATE TYPE " ++ t.name ++ " AS ENUM (" ++ members t.members ++ ");")

/-- The words of a column definition after its name and type. -/
def constraints (c : Column) : List String :=
  (if c.isPrimaryKey then ["PRIMARY KEY"] else [])
  ++ (if c.isNotNull then ["NOT NULL"] else [])
  ++ (if c.isUnique then ["UNIQUE"] else [])
  ++ (c.default.map fun value => "DEFAULT " ++ value.display).toList
  ++ ((c.check.filter (· != "")).map fun check => "CHECK " ++ check).toList

/-- The definition of a column inside its table. -/
def column (c : Column) : Except Failure String :=
  if c.name = "" then throw (.ofMissingPart .name none)
  else if c.type = "" then throw (.ofMissingPart .type (some c.name))
  else pure (Text.join " " (c.name :: Text.upper c.type :: constraints c))

/-- The statement that creates a table. -/
def table (t : Table) : Checked String := do
  if t.columns.isEmpty then
    warn .emptyColumns t.name "Table has no columns"
    pure ("CREATE TABLE " ++ t.name ++ " IF NOT EXISTS ();")
  else
    let columns ← liftExcept (t.columns.mapM column)
    pure ("CREATE TABLE " ++ t.name ++ " IF NOT EXISTS (\n  " ++ Text.join ",\n  " columns ++ "\n);")

/-- The statement that sets a comment. -/
def comment (c : Comment) : Warned String := do
  if Text.isBlank c.content then
    warn .blankComment c.target ("Comment on " ++ c.kind.word ++ " is blank")
  pure ("COMMENT ON " ++ c.kind.keyword ++ " " ++ c.target ++ " IS " ++ Sql.quote c.content ++ ";")

/-- One paragraph of a script, unless there is nothing in it. -/
def paragraph (separator : String) (statements : List String) : List String :=
  if statements.isEmpty then [] else [Text.join separator statements]

/-- The script that creates everything of a blueprint. -/
def ofBlueprint (schemaName : String) (b : Blueprint) : Checked String := do
  let types ← b.types.mapM fun t => (enumType t : Checked String)
  let tables ← b.tables.mapM table
  let comments ← b.comments.mapM fun c => (comment c : Checked String)
  let paragraphs := schema schemaName
    :: (paragraph "\n\n" types ++ paragraph "\n\n" tables ++ paragraph "\n" comments)
  pure ("\nBEGIN;\n\n" ++ Text.join "\n\n" paragraphs ++ "\n\nCOMMIT;\n")

end Tablewright.Script
