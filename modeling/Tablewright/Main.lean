/-
The program: a command line run on the system it was started on.
-/
import Tablewright.CommandLine.Arguments
import Tablewright.Run

namespace Tablewright.Program

open CommandLine

/-- Does something, and gives the words of the fault if there is one. -/
def attempt {α : Type} (action : IO α) : IO (Except String α) := do
  try return .ok (← action) catch fault => return .error (toString fault)

/-- The system the program was started on.  It cannot reach a server. -/
def system : System IO where
  readFile path := attempt (IO.FS.readFile path)
  readInput := attempt do (← IO.getStdin).readToEnd
  writeFile path text := attempt (IO.FS.writeFile path text)
  print text := attempt do
    let output ← IO.getStdout
    output.putStr text
    output.flush
  report warning := IO.eprintln ("warning: " ++ warning.text)
  execute connection _ :=
    return .error (.connect ("no client for " ++ connection.object.place ++ " is installed"))

/-- What the program answers when it is asked for no run. -/
def answer : Refusal → String
  | .help => "Usage: tablewright [OPTIONS]"
  | .version => "tablewright 0.1.0"
  | .unknownArgument => "error: unexpected argument"
  | .invalidValue => "error: invalid value"
  | .unreadableValue => "error: a value cannot be read"
  | .conflict => "error: arguments that cannot be used together"
  | .surplusValue => "error: a value for an option that takes none"

/-- The defaults that the environment gives. -/
def defaults : IO ConnectionDefaults := do
  let names := ["PGHOST", "PGPORT", "PGUSER", "PGPASSWORD", "PGDATABASE"]
  let values ← names.mapM fun name => do return (name, ← IO.getEnv name)
  return .ofLookup fun name => (values.lookup name).join

/-- Runs a command line. -/
def main (arguments : List String) : IO UInt32 := do
  match parse arguments with
  | .error refusal =>
    if refusal.exitCode = 0 then IO.println (answer refusal) else IO.eprintln (answer refusal)
    return refusal.exitCode.toUInt32
  | .ok options =>
    match ← (run system (← defaults) options).run with
    | .ok () => return 0
    | .error failure =>
      IO.eprintln ("error: " ++ failure.message)
      return failure.exitCode.toUInt32

end Tablewright.Program

/-- Runs the program. -/
def main (arguments : List String) : IO UInt32 :=
  Tablewright.Program.main arguments
