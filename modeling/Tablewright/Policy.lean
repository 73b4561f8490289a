/-
Policies for structural columns.

Some columns of a table are not declared in the model: its key, its timestamps,
its operators and its deletion mark.  A policy says how one such group comes
about.  It is written as a flag, as a tag, as a column or as a list of columns.
-/
import Tablewright.Column

namespace Tablewright

open Document

/-- How one group of structural columns comes about. -/
inductive Policy
  /-- No column. -/
  | disabled
  /-- The built-in columns. -/
  | enabled
  /-- A variant of the built-in columns. -/
  | tagged (tag : String)
  /-- One column given by the user. -/
  | column (column : Column)
  /-- Several columns given by the user. -/
  | columns (columns : List Column)
deriving DecidableEq

namespace Policy

/-- The policy a flag stands for. -/
def ofFlag (enabled : Bool) : Policy :=
  if enabled then .enabled else .disabled

/-- Whether the policy may give columns. -/
def isEnabled (p : Policy) : Bool :=
  p != .disabled

/-- The column that a value is; a column of a policy is always written as a map. -/
def columnOfValue? (v : Value) : Option Column :=
  if v.isMap then (Column.read v.toTree).toOption else none

/-- The policy that a value is. -/
def ofValue? : Value → Option Policy
  | .scalar (.flag value) => some (ofFlag value)
  | .scalar (.text value) => some (tagged value)
  | .map members => (columnOfValue? (.map members)).map column
  | .list items => (items.mapM columnOfValue?).map columns
  | _ => none

/-- Reads a policy. -/
def read (t : Tree) : Read Policy :=
  t.choose "RawPolicy" ofValue?

/-- A policy as a value. -/
def toValue : Policy → Value
  | disabled => .scalar (.flag false)
  | enabled => .scalar (.flag true)
  | tagged tag => .scalar (.text tag)
  | column c => c.toValue
  | columns cs => .list (cs.map Column.toValue)

end Policy

end Tablewright
