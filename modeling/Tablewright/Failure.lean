/-
Why a run fails.

Every stage of a run reports its failures as one of these causes.  The wording
of a cause is fixed, and so is the class it belongs to: the model, the
connection, the files and streams, or anything else.
-/
import Tablewright.Document.Error

namespace Tablewright

/-- What a column must have before it can be written. -/
inductive ColumnPart
  | name
  | type
deriving DecidableEq

/-- The word for a part of a column. -/
def ColumnPart.word : ColumnPart → String
  | name => "name"
  | type => "type"

/-- Why a run fails. -/
inductive Failure
  /-- An entity is not an object. -/
  | notAnObject (entity found : String)
  /-- A list does not describe its items. -/
  | missingItems (column : String)
  /-- An enumeration has a type that no members can have. -/
  | enumBase (column found : String)
  /-- A column lacks its name or its type. -/
  | missingColumnPart (part : ColumnPart) (column : Option String)
  /-- A connect string is for another kind of server. -/
  | foreignProtocol (protocol : String)
  | malformedConnectString (input reason : String)
  /-- There is nothing to run the script on. -/
  | noConnection
  | connect (reason : String)
  | execution (reason : String)
  | stream (reason : String)
  | fileRead (path reason : String)
  | fileWrite (path reason : String)
  | unknownFileType (name : String)
  | json (cause : Document.Error)
  | yaml
  /-- A configuration cannot be used, for a reason where there is one to tell. -/
  | configuration (reason : Option String)
  /-- Another failure, with what was being done. -/
  | during (context message : String)
deriving DecidableEq

namespace Failure

/-- A column lacks a part; an empty name does not identify it. -/
def ofMissingPart (part : ColumnPart) (column : Option String) : Failure :=
  .missingColumnPart part (column.filter (· != ""))

/-- The wording of a failure. -/
def message : Failure → String
  | notAnObject entity found =>
    "Schema type of entity '" ++ entity ++ "' must be \"object\", but got " ++ found
  | missingItems column =>
    "Array type of column '" ++ column ++ "' requires the \"items\" property, but got none"
  | enumBase column found =>
    "Enum on column '" ++ column ++ "' requires an integer, number or string type, but got " ++ found
  | missingColumnPart part column =>
    "Column " ++ part.word ++ " was required, but got none" ++
      (column.map fun name => " (column '" ++ name ++ "')").getD ""
  | foreignProtocol protocol => "The protocol must be \"postgresql:\", but got " ++ protocol
  | malformedConnectString input reason => "Invalid connect string '" ++ input ++ "': " ++ reason
  | noConnection => "Unresolved connection: no connection available to execute the migration"
  | connect reason => "Database connect failed: " ++ reason
  | execution reason => "Migration exec failed: " ++ reason
  | stream reason => "IO error: " ++ reason
  | fileRead path reason => "Failed to read file '" ++ path ++ "': " ++ reason
  | fileWrite path reason => "Failed to write file '" ++ path ++ "': " ++ reason
  | unknownFileType name => "Unknown file type: " ++ name
  | json cause => "JSON parse error: " ++ cause.message
  | yaml => "YAML parse error"
  | configuration (some reason) => "Invalid configuration: " ++ reason
  | configuration none => "Invalid configuration"
  | during context message => context ++ ": " ++ message

/-- The failure together with what was being done. -/
def within (context : String) (f : Failure) : Failure :=
  .during context f.message

/-- Whether the model is at fault. -/
def isModel : Failure → Bool
  | notAnObject .. | missingItems _ | enumBase .. | missingColumnPart .. => true
  | _ => false

/-- Whether the connection or its use is at fault. -/
def isConnection : Failure → Bool
  | foreignProtocol _ | malformedConnectString .. | noConnection | connect _ | execution _ => true
  | _ => false

/-- Whether a file or a stream is at fault. -/
def isFile : Failure → Bool
  | stream _ | fileRead .. | fileWrite .. => true
  | _ => false

/-- The exit code of a run that failed: 3 for the model, 4 for the connection, 5 for files and
streams, and 1 for anything else. -/
def exitCode (f : Failure) : Nat :=
  if f.isModel then 3
  else if f.isConnection then 4
  else if f.isFile then 5
  else 1

end Failure

end Tablewright
