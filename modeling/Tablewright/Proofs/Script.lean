/-
A script, as a plain function of the blueprint.

Nothing but a column that lacks its name or its type stops the writing of a
script, and the first such column, table by table, is the one that is reported.
A run that is not stopped writes the statements of `plan`, in its order and with
a semicolon behind each; what is between them are line ends.
-/
import Tablewright.Proofs.Checked
import Tablewright.Script

namespace Tablewright.Script

/-! ### Statements -/

/-- A statement of a script. -/
inductive Statement
  | opening
  | createSchema (name : String)
  | createType (type : EnumType)
  | createTable (table : Table)
  | setComment (comment : Comment)
  | closing

/-- The definition of a column that has a name and a type. -/
def columnText (c : Column) : String :=
  Text.join " " (c.name :: Text.upper c.type :: constraints c)

/-- A statement as it stands in a script, up to its semicolon. -/
def Statement.text : Statement → String
  | opening => "BEGIN"
  | createSchema name => "CREATE SCHEMA " ++ name ++ " IF NOT EXISTS"
  | createType t => "CREATE TYPE " ++ t.name ++ " AS ENUM (" ++ members t.members ++ ")"
  | createTable t =>
    if t.columns.isEmpty then "CREATE TABLE " ++ t.name ++ " IF NOT EXISTS ()"
    else
      "CREATE TABLE " ++ t.name ++ " IF NOT EXISTS (\n  "
        ++ Text.join ",\n  " (t.columns.map columnText) ++ "\n)"
  | setComment c =>
    "COMMENT ON " ++ c.kind.keyword ++ " " ++ c.target ++ " IS " ++ Sql.quote c.content
  | closing => "COMMIT"

/-- A statement with its semicolon. -/
def Statement.written (s : Statement) : String :=
  s.text ++ ";"

/-- The statements of the script of a blueprint. -/
def plan (schemaName : String) (b : Blueprint) : List Statement :=
  [.opening, .createSchema schemaName]
    ++ b.types.map .createType ++ b.tables.map .createTable ++ b.comments.map .setComment
    ++ [.closing]

/-! ### What the statements come to -/

/-- The semicolon behind a text may stand in its last part already. -/
theorem append_written {last bare : String} (start : String) (h : last = bare ++ ";") :
    start ++ last = start ++ bare ++ ";" := by
  rw [h, String.append_assoc]

/-- The warning that a type without members gives. -/
def typeWarnings (t : EnumType) : Log :=
  if t.members.isEmpty then [⟨.emptyEnum, t.name, "Enum type has no values"⟩] else []

theorem enumType_gives (t : EnumType) :
    Warned.Gives (enumType t) (Statement.createType t).written (typeWarnings t) := by
  have htext : "CREATE TYPE " ++ t.name ++ " AS ENUM (" ++ members t.members ++ ");"
      = (Statement.createType t).written := append_written _ (by decide)
  unfold enumType typeWarnings
  rw [htext]
  split
  · exact Warned.gives_bind (Warned.gives_warn _ _ _) (Warned.gives_pure _)
  · exact Warned.gives_pure _

/-- What a column lacks; its name is asked for first. -/
def partFailure? (c : Column) : Option Failure :=
  if c.name = "" then some (.ofMissingPart .name none)
  else if c.type = "" then some (.ofMissingPart .type (some c.name))
  else none

theorem column_eq (c : Column) : column c = barring (partFailure? c) (columnText c) := by
  unfold column partFailure?
  split
  · rfl
  · split
    · rfl
    · rfl

/-- What the first column of a table to lack anything lacks. -/
def tableFailure? (t : Table) : Option Failure :=
  t.columns.findSome? partFailure?

/-- The warning that a table without columns gives. -/
def tableWarnings (t : Table) : Log :=
  if t.columns.isEmpty then [⟨.emptyColumns, t.name, "Table has no columns"⟩] else []

theorem table_gives (t : Table) :
    Checked.Gives (table t) (tableFailure? t) (Statement.createTable t).written
      (tableWarnings t) := by
  unfold table tableFailure? tableWarnings
  by_cases hempty : t.columns.isEmpty = true
  · have htext : "CREATE TABLE " ++ t.name ++ " IF NOT EXISTS ();"
        = (Statement.createTable t).written := by
      have hbare : (Statement.createTable t).text = _ := if_pos hempty
      rw [Statement.written, hbare]
      exact append_written _ (by decide)
    have hwarn := Checked.gives_liftM (Warned.gives_warn .emptyColumns t.name
      "Table has no columns")
    rw [if_pos hempty, if_pos hempty, ← htext, List.isEmpty_iff.mp hempty]
    exact Checked.gives_bind_of_none hwarn (Checked.gives_pure _)
  · have htext : "CREATE TABLE " ++ t.name ++ " IF NOT EXISTS (\n  "
          ++ Text.join ",\n  " (t.columns.map columnText) ++ "\n);"
        = (Statement.createTable t).written := by
      have hbare : (Statement.createTable t).text = _ := if_neg hempty
      rw [Statement.written, hbare]
      exact append_written _ (by decide)
    have hcolumns := Checked.gives_liftExcept (mapM_barring column_eq t.columns)
    rw [if_neg hempty, if_neg hempty, ← htext]
    exact Checked.gives_map hcolumns _

/-- The warning that a blank comment gives. -/
def commentWarnings (c : Comment) : Log :=
  if Text.isBlank c.content then
    [⟨.blankComment, c.target, "Comment on " ++ c.kind.word ++ " is blank"⟩]
  else []

theorem comment_gives (c : Comment) :
    Warned.Gives (comment c) (Statement.setComment c).written (commentWarnings c) := by
  unfold comment commentWarnings
  split
  · exact Warned.gives_bind (Warned.gives_warn _ _ _) (Warned.gives_pure _)
  · exact Warned.gives_pure _

/-! ### The whole script -/

/-- A script of written statements. -/
def assemble (schema : String) (types tables comments : List String) : String :=
  let paragraphs := schema
    :: (paragraph "\n\n" types ++ paragraph "\n\n" tables ++ paragraph "\n" comments)
  "\nBEGIN;\n\n" ++ Text.join "\n\n" paragraphs ++ "\n\nCOMMIT;\n"

/-- The script of a blueprint, as a plain function of it. -/
def text (schemaName : String) (b : Blueprint) : String :=
  assemble (Statement.createSchema schemaName).written
    (b.types.map fun t => (Statement.createType t).written)
    (b.tables.map fun t => (Statement.createTable t).written)
    (b.comments.map fun c => (Statement.setComment c).written)

/-- What stops the writing of a script. -/
def blueprintFailure? (b : Blueprint) : Option Failure :=
  b.tables.findSome? tableFailure?

/-- The warnings that writing a script gives. -/
def blueprintWarnings (b : Blueprint) : Log :=
  b.types.flatMap typeWarnings
    ++ (Log.upTo tableFailure? tableWarnings b.tables
      ++ Log.past (blueprintFailure? b) (b.comments.flatMap commentWarnings))

/-- **What writing the script of a blueprint comes to, from every log.** -/
theorem ofBlueprint_gives (schemaName : String) (b : Blueprint) :
    Checked.Gives (ofBlueprint schemaName b) (blueprintFailure? b) (text schemaName b)
      (blueprintWarnings b) := by
  have htypes := Checked.gives_mapM_liftM enumType_gives b.types
  have htables := Checked.gives_mapM table_gives b.tables
  have hcomments := Checked.gives_mapM_liftM comment_gives b.comments
  have hschema : schema schemaName = (Statement.createSchema schemaName).written :=
    append_written _ (by decide)
  have hwritten (types tables : List String) := Checked.gives_map hcomments
    (assemble (schema schemaName) types tables)
  have hall : Checked.Gives (ofBlueprint schemaName b) ((blueprintFailure? b).or none)
      (assemble (schema schemaName) (b.types.map fun t => (Statement.createType t).written)
        (b.tables.map fun t => (Statement.createTable t).written)
        (b.comments.map fun c => (Statement.setComment c).written))
      (blueprintWarnings b) :=
    Checked.gives_bind_of_none htypes (Checked.gives_bind htables (hwritten _ _))
  rw [Option.or_none, hschema] at hall
  exact hall

end Tablewright.Script
