/-
Blueprints: what a script will create.

A blueprint holds the tables, the enumeration types and the comments of one
schema, each in the order in which the script creates them.
-/
import Tablewright.Column

namespace Tablewright

open Document

/-- Whether two names are the same but for the case of ASCII letters, as the server folds names that
stand without quotes. -/
def sameName (a b : String) : Bool :=
  a.toList.map Char.toLower == b.toList.map Char.toLower

/-- A table. -/
structure Table where
  /-- The name, with its schema. -/
  name : String
  columns : List Column
deriving DecidableEq

/-- The first column of this name. -/
def Table.column? (t : Table) (name : String) : Option Column :=
  t.columns.find? fun c => sameName c.name name

/-- An enumeration type. -/
structure EnumType where
  /-- The name, with its schema. -/
  name : String
  members : List Literal
deriving DecidableEq

/-- What a comment is attached to. -/
inductive CommentKind
  | table
  | column
deriving DecidableEq

namespace CommentKind

/-- The word for the kind. -/
def word : CommentKind → String
  | table => "table"
  | column => "column"

/-- The keyword that stands in a script. -/
def keyword : CommentKind → String
  | table => "TABLE"
  | column => "COLUMN"

/-- The kind of a word. -/
def ofWord? : String → Option CommentKind
  | "table" => some table
  | "column" => some column
  | _ => none

end CommentKind

/-- A comment on a table or on a column. -/
structure Comment where
  kind : CommentKind
  /-- The name of the table or column, with its schema. -/
  target : String
  content : String
deriving DecidableEq

/-- What a script will create. -/
structure Blueprint where
  tables : List Table := []
  types : List EnumType := []
  comments : List Comment := []
deriving DecidableEq

namespace Blueprint

/-- Two blueprints one after the other. -/
def append (a b : Blueprint) : Blueprint :=
  ⟨a.tables ++ b.tables, a.types ++ b.types, a.comments ++ b.comments⟩

/-- The first table of this name. -/
def table? (b : Blueprint) (name : String) : Option Table :=
  b.tables.find? fun t => sameName t.name name

/-- The first enumeration type of this name. -/
def enumType? (b : Blueprint) (name : String) : Option EnumType :=
  b.types.find? fun t => sameName t.name name

end Blueprint

/-! ### Reading -/

namespace Table

/-- A table as far as its fields were given. -/
structure Draft where
  name : Option String := none
  columns : Option (List Column) := none

/-- How a table is written in a document. -/
def layout : Layout Tree Draft where
  title := "struct Table"
  openEnded := false
  fields := [
    ⟨"name", [], fun t d => return { d with name := some (← t.text) }⟩,
    ⟨"columns", [], fun t d => return { d with columns := some (← t.listOf Column.read) }⟩]

/-- Reads a table. -/
def read (t : Tree) : Read Table := do
  let d ← layout.read {} t
  pure { name := ← require "name" d.name, columns := ← require "columns" d.columns }

end Table

namespace EnumType

/-- An enumeration type as far as its fields were given. -/
structure Draft where
  name : Option String := none
  members : Option (List Literal) := none

/-- How an enumeration type is written in a document. -/
def layout : Layout Tree Draft where
  title := "struct EnumType"
  openEnded := false
  fields := [
    ⟨"name", [], fun t d => return { d with name := some (← t.text) }⟩,
    ⟨"enums", [], fun t d => return { d with members := some (← t.listOf Literal.read) }⟩]

/-- Reads an enumeration type. -/
def read (t : Tree) : Read EnumType := do
  let d ← layout.read {} t
  pure { name := ← require "name" d.name, members := ← require "enums" d.members }

end EnumType

namespace CommentKind

/-- The kind that a text names. -/
def ofText (text : String) : Read CommentKind :=
  match ofWord? text with
  | some kind => pure kind
  | none => throw (.unknownVariant text "`table` or `column`")

/-- The kind that a key names. -/
def ofKey (key : Key) : Read CommentKind := do
  match ← key.direct with
  | .name text => ofText text
  | .index _ | .other => throw .expectedValue

/-- What ends a kind that is written as a map, after the one member it has. -/
def checkEnd (rest : List (Key × Tree)) : MapEnd → Read Unit
  | .closed => if rest.isEmpty then pure () else throw .expectedValue
  | .endOfText => throw (if rest.isEmpty then .endOfText .object else .expectedValue)
  | _ => throw .expectedValue

/-- Reads a kind.  It is a word, or a map that gives the word an empty value. -/
def read : Tree → Read CommentKind
  | .leaf ⟨.text text, _, _, _⟩ => ofText text
  | .leaf _ | .list _ _ | .barred .depth (.list _ _) => throw .expectedValue
  | .broken fault => throw fault.glance
  | .barred _ _ => throw .tooDeep
  | .map ((key, value) :: rest) ending => do
    let kind ← ofKey key
    unless value.isAbsent do value.refuse "unit"
    checkEnd rest ending
    pure kind
  | .map [] ending => do
    match ending with
    | .endOfText => throw (.endOfText .value)
    | .keyNotText found => throw (.wrongType (← found) "variant identifier")
    | .afterKey key fault =>
      let _ ← ofKey key
      throw fault
    | .brokenKey fault => throw fault.read
    | _ => throw .expectedValue

end CommentKind

namespace Comment

/-- A comment as far as its fields were given. -/
structure Draft where
  kind : Option CommentKind := none
  target : Option String := none
  content : Option String := none

/-- How a comment is written in a document. -/
def layout : Layout Tree Draft where
  title := "struct Comment"
  openEnded := false
  fields := [
    ⟨"type", [], fun t d => return { d with kind := some (← CommentKind.read t) }⟩,
    ⟨"target", [], fun t d => return { d with target := some (← t.text) }⟩,
    ⟨"content", [], fun t d => return { d with content := some (← t.text) }⟩]

/-- Reads a comment. -/
def read (t : Tree) : Read Comment := do
  let d ← layout.read {} t
  pure {
    kind := ← require "type" d.kind
    target := ← require "target" d.target
    content := ← require "content" d.content }

end Comment

namespace Blueprint

/-- A blueprint as far as its fields were given. -/
structure Draft where
  tables : Option (List Table) := none
  types : Option (List EnumType) := none
  comments : Option (List Comment) := none

/-- How a blueprint is written in a document. -/
def layout : Layout Tree Draft where
  title := "struct Metas"
  openEnded := false
  fields := [
    ⟨"tables", [], fun t d => return { d with tables := some (← t.listOf Table.read) }⟩,
    ⟨"types", [], fun t d => return { d with types := some (← t.listOf EnumType.read) }⟩,
    ⟨"comments", [], fun t d => return { d with comments := some (← t.listOf Comment.read) }⟩]

/-- Reads a blueprint. -/
def read (t : Tree) : Read Blueprint := do
  let d ← layout.read {} t
  pure {
    tables := ← require "tables" d.tables
    types := ← require "types" d.types
    comments := ← require "comments" d.comments }

end Blueprint

end Tablewright
