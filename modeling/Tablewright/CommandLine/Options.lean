/-
What a command line asks for.

Options go before the configuration: a setting given on the command line replaces
the configuration's, and so does a part of the connection.  A connect string
given on the command line is the whole target, and a connect string in the
configuration is given up as soon as one part is given on the command line.
-/
import Tablewright.Configuration
import Tablewright.Model.Format

namespace Tablewright.CommandLine

/-- What a command line asks for. -/
structure Options where
  schema : Option String := none
  /-- The file of the model; it is read from the standard input otherwise. -/
  file : Option String := none
  /-- The format of the model, when it is not told by the file's name. -/
  format : Option Format := none
  /-- The file of the configuration. -/
  configuration : Option String := none
  /-- The connect string. -/
  connect : Option String := none
  parts : ConnectionParts := {}
  id : Option Policy := none
  timestamp : Option Policy := none
  operator : Option Policy := none
  softDelete : Option Policy := none
  checks : Bool := false
  /-- Whether the script is printed and not run. -/
  dryRun : Bool := false
  /-- The file that the script is written to and not run. -/
  output : Option String := none
  verbose : Bool := false
deriving DecidableEq

namespace Options

/-- The settings of a configuration with those of the command line in front. -/
def settings (o : Options) (base : Settings) : Settings where
  schema := o.schema.getD base.schema
  id := o.id.getD base.id
  timestamp := o.timestamp.getD base.timestamp
  operator := o.operator.getD base.operator
  softDelete := o.softDelete.getD base.softDelete
  checks := o.checks || base.checks

/-- The target, when the configuration may have one. -/
def target (o : Options) (configured : Option Target) : Target :=
  match o.connect, configured with
  | some text, _ => .url text
  | none, some (.parts parts) => .parts (parts.overlay o.parts)
  | none, some (.url text) => if o.parts.isEmpty then .url text else .parts o.parts
  | none, none => .parts o.parts

end Options

end Tablewright.CommandLine
