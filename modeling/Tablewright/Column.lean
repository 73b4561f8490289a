/-
Columns of a table.

A column whose name or type was left out is empty there; it can be read and
passed on, and only writing it as SQL fails.
-/
import Tablewright.Document.Record
import Tablewright.Literal

namespace Tablewright

open Document

/-- A column with its constraints. -/
structure Column where
  name : String := ""
  /-- The data type, in lower case as far as it is derived. -/
  type : String := ""
  /-- Whether the column is the primary key. -/
  primaryKey : Option Bool := none
  /-- `false` forbids nulls. -/
  nullable : Option Bool := none
  unique : Option Bool := none
  /-- An SQL expression, written as it stands. -/
  default : Option Literal := none
  /-- The condition after `CHECK`, written as it stands. -/
  check : Option String := none
deriving DecidableEq

namespace Column

/-! ### Building -/

/-- A column without constraints. -/
def plain (name type : String) : Column :=
  { name, type }

/-- Makes the column the primary key. -/
def asPrimaryKey (c : Column) : Column :=
  { c with primaryKey := some true }

/-- Allows or forbids nulls. -/
def withNullable (c : Column) (nullable : Bool) : Column :=
  { c with nullable := some nullable }

/-- Makes the column unique. -/
def asUnique (c : Column) : Column :=
  { c with unique := some true }

/-- Sets the default. -/
def withDefault (c : Column) (value : Literal) : Column :=
  { c with default := some value }

/-- Sets the check. -/
def withCheck (c : Column) (check : String) : Column :=
  { c with check := some check }

/-! ### Asking -/

/-- Whether the column is written with `PRIMARY KEY`. -/
def isPrimaryKey (c : Column) : Bool :=
  c.primaryKey == some true

/-- Whether the column is written with `NOT NULL`. -/
def isNotNull (c : Column) : Bool :=
  c.nullable == some false

/-- Whether the column is written with `UNIQUE`. -/
def isUnique (c : Column) : Bool :=
  c.unique == some true

/-! ### Reading and writing as a document -/

/-- How a column is written in a document. -/
def layout : Layout Tree Column where
  title := "struct Column"
  openEnded := true
  fields := [
    ⟨"name", [], fun t c => return { c with name := ← t.text }⟩,
    ⟨"type", [], fun t c => return { c with type := ← t.text }⟩,
    ⟨"primaryKey", [], fun t c => return { c with primaryKey := ← t.optional Tree.flag }⟩,
    ⟨"nullable", [], fun t c => return { c with nullable := ← t.optional Tree.flag }⟩,
    ⟨"unique", [], fun t c => return { c with unique := ← t.optional Tree.flag }⟩,
    ⟨"default", [], fun t c => return { c with default := ← t.optional Literal.read }⟩,
    ⟨"check", [], fun t c => return { c with check := ← t.optional Tree.text }⟩]

/-- Reads a column. -/
def read (t : Tree) : Read Column :=
  layout.read {} t

/-- A column as a value: its name and type, and the constraints that are set. -/
def toValue (c : Column) : Value :=
  .map (
    [(.name "name", .scalar (.text c.name)), (.name "type", .scalar (.text c.type))]
    ++ (c.primaryKey.map fun b => (.name "primaryKey", .scalar (.flag b))).toList
    ++ (c.nullable.map fun b => (.name "nullable", .scalar (.flag b))).toList
    ++ (c.unique.map fun b => (.name "unique", .scalar (.flag b))).toList
    ++ (c.default.map fun l => (.name "default", l.toValue)).toList
    ++ (c.check.map fun s => (.name "check", .scalar (.text s))).toList)

end Column

end Tablewright
