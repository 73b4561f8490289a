/-
What a connection has where nothing is said.

Five variables of the environment give values of their own; one that is empty
counts as missing, and so does a port that is none.
-/
import Tablewright.Url

namespace Tablewright

/-- The parts a connection has where nothing is said. -/
structure ConnectionDefaults where
  host : String := "127.0.0.1"
  port : Port := 5432
  user : String := "postgres"
  password : Option String := none
  database : String := "postgres"
deriving DecidableEq

namespace ConnectionDefaults

/-- The port that a text is: decimal digits, with or without a plus sign. -/
def portOf? (text : String) : Option Port :=
  match text.toList with
  | '+' :: digits => Url.port? digits
  | digits => Url.port? digits

/-- The values that variables give. -/
def ofLookup (lookup : String → Option String) : ConnectionDefaults :=
  let given (name : String) := (lookup name).filter (· ≠ "")
  let builtIn : ConnectionDefaults := {}
  { host := (given "PGHOST").getD builtIn.host
    port := ((given "PGPORT").bind portOf?).getD builtIn.port
    user := (given "PGUSER").getD builtIn.user
    password := given "PGPASSWORD"
    database := (given "PGDATABASE").getD builtIn.database }

end ConnectionDefaults

end Tablewright
