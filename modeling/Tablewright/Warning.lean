/-
Warnings: what is odd about a run without stopping it.

A run keeps its warnings in the order in which they come up.  A computation that
may warn takes the log so far and gives the log afterwards; one that may also
fail keeps the warnings it gave before it failed.
-/
import Tablewright.Failure

namespace Tablewright

/-- What a warning is about. -/
inductive WarningKind
  | blankComment
  | emptyEnum
  | emptyColumns
  | unknownNumericFormat
  | unknownStructuralColumn
  | emptyEntity
  | unquotedIdentifier
deriving DecidableEq

/-- The word for a kind of warning. -/
def WarningKind.word : WarningKind → String
  | blankComment => "blank_comment"
  | emptyEnum => "empty_enum"
  | emptyColumns => "empty_columns"
  | unknownNumericFormat => "unknown_numeric_format"
  | unknownStructuralColumn => "unknown_structural_column"
  | emptyEntity => "empty_entity"
  | unquotedIdentifier => "unquoted_identifier"

/-- A warning about one object. -/
structure Warning where
  kind : WarningKind
  /-- The name of the object. -/
  target : String
  message : String
deriving DecidableEq

/-- A warning as it is shown. -/
def Warning.text (w : Warning) : String :=
  "[" ++ w.target ++ "] " ++ w.message

/-- Warnings in the order in which they came up. -/
abbrev Log := List Warning

/-- Whether a warning of this kind came up. -/
def Log.has (log : Log) (kind : WarningKind) : Bool :=
  List.any log (·.kind = kind)

/-- A computation that may warn. -/
abbrev Warned (α : Type) := StateM Log α

/-- A computation that may warn and may fail. -/
abbrev Checked (α : Type) := ExceptT Failure (StateM Log) α

/-- Gives a warning. -/
def warn (kind : WarningKind) (target message : String) : Warned Unit :=
  modify (· ++ [⟨kind, target, message⟩])

/-- Runs a computation that may fail from a log. -/
def Checked.from {α : Type} (action : Checked α) (log : Log) : Except Failure α × Log :=
  action.run.run log

end Tablewright
