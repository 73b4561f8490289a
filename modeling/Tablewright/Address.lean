/-
Addresses: the names that are derived from where something lies.

Everything that is named after a column takes its name from the address of the
column, so that the type of an enumeration column and the type that is created
for it always agree.
-/
namespace Tablewright

/-- Where an entity lies. -/
structure TableAddress where
  schema : String
  table : String
deriving DecidableEq

/-- Where a column lies. -/
structure ColumnAddress where
  schema : String
  table : String
  column : String
deriving DecidableEq

namespace TableAddress

/-- The name of the table. -/
def name (a : TableAddress) : String :=
  a.schema ++ "." ++ a.table

/-- The address of a column of the table. -/
def column (a : TableAddress) (column : String) : ColumnAddress :=
  ⟨a.schema, a.table, column⟩

end TableAddress

namespace ColumnAddress

/-- The name of the table. -/
def tableName (a : ColumnAddress) : String :=
  a.schema ++ "." ++ a.table

/-- The name of the column. -/
def name (a : ColumnAddress) : String :=
  a.schema ++ "." ++ a.table ++ "." ++ a.column

/-- The name of the enumeration type of the column. -/
def enumTypeName (a : ColumnAddress) : String :=
  a.schema ++ "." ++ a.table ++ "_" ++ a.column

end ColumnAddress

end Tablewright
