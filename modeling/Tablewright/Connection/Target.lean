/-
What to connect to, as far as it is said.

A target is a connect string or some parts of a connection, any of which may be
missing.
-/
import Tablewright.Document.Record
import Tablewright.Url

namespace Tablewright

open Document

/-- Parts of a connection, any of which may be missing. -/
structure ConnectionParts where
  user : Option String := none
  password : Option String := none
  host : Option String := none
  port : Option Port := none
  database : Option String := none
deriving DecidableEq

namespace ConnectionParts

/-- Reads a port. -/
def readPort (t : Tree) : Read Port := do
  let n ← t.count 65536 "u16"
  if h : n < 65536 then pure ⟨n, h⟩ else t.refuse "u16"

/-- How parts of a connection are written in a document. -/
def layout : Layout Tree ConnectionParts where
  title := "struct ConnectParts"
  openEnded := true
  fields := [
    ⟨"user", ["username"], fun t p => return { p with user := ← t.optional Tree.text }⟩,
    ⟨"pass", ["password"], fun t p => return { p with password := ← t.optional Tree.text }⟩,
    ⟨"host", ["hostname"], fun t p => return { p with host := ← t.optional Tree.text }⟩,
    ⟨"port", [], fun t p => return { p with port := ← t.optional readPort }⟩,
    ⟨"data", ["database", "db"], fun t p => return { p with database := ← t.optional Tree.text }⟩]

/-- Reads parts of a connection. -/
def read (t : Tree) : Read ConnectionParts :=
  layout.read {} t

/-- Whether no part is given. -/
def isEmpty (p : ConnectionParts) : Bool :=
  p = {}

/-- The parts that `upper` gives, and those of `base` where it gives none. -/
def overlay (base upper : ConnectionParts) : ConnectionParts where
  user := upper.user.or base.user
  password := upper.password.or base.password
  host := upper.host.or base.host
  port := upper.port.or base.port
  database := upper.database.or base.database

end ConnectionParts

/-- What to connect to. -/
inductive Target
  | url (text : String)
  | parts (parts : ConnectionParts)
deriving DecidableEq

namespace Target

/-- The target that a value is. -/
def ofValue? : Value → Option Target
  | .scalar (.text text) => some (.url text)
  | .scalar _ => none
  | value => (ConnectionParts.read value.toTree).toOption.map .parts

/-- Reads a target. -/
def read (t : Tree) : Read Target :=
  t.choose "ConnectTarget" ofValue?

end Target

end Tablewright
