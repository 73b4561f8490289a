/-
Runs: from a command line to a script that is printed, written or executed.

A run asks a system for everything outside it and does one thing after another:
it reads the configuration, reads the model, compiles it, writes the script to a
file, prints it, and resolves the connection and executes the script.  The first
of these that fails ends the run.  A script that is written or printed is not
executed.
-/
import Tablewright.CommandLine.Options
import Tablewright.Connection
import Tablewright.Migration
import Tablewright.Model.Loading

namespace Tablewright

open CommandLine

/-- What a run asks of the system around it; what fails there fails for a reason in words. -/
structure System (m : Type → Type) where
  readFile : (path : String) → m (Except String String)
  readInput : m (Except String String)
  writeFile : (path text : String) → m (Except String Unit)
  print : (text : String) → m (Except String Unit)
  /-- Shows a warning. -/
  report : Warning → m Unit
  /-- Executes a script on a connection. -/
  execute : Connection → (script : String) → m (Except Failure Unit)

namespace Run

variable {m : Type → Type} [Monad m]

/-- Asks the system for something that may fail. -/
def ask {α : Type} (action : m (Except String α)) (failure : String → Failure) : ExceptT Failure m α :=
  ExceptT.mk do return (← action).mapError failure

/-- Reads a file. -/
def readFile (system : System m) (path : String) : ExceptT Failure m String :=
  ask (system.readFile path) (.fileRead path)

/-- A configuration that cannot be used, with the file that it is in. -/
def inFile (path : String) : Failure → Failure
  | .configuration none => .configuration (some (path ++ ": Invalid configuration"))
  | failure => failure

/-- Reads the configuration. -/
def configuration (system : System m) (o : Options) : ExceptT Failure m Configuration :=
  match o.configuration with
  | none => pure {}
  | some path => do
    let text ← readFile system path
    liftExcept ((Configuration.ofToml text).mapError (inFile path))

/-- Reads the model; the format of a file is told by its name unless the options give it. -/
def model (system : System m) (o : Options) : ExceptT Failure m Model :=
  match o.file with
  | some path => do
    let format ← liftExcept ((o.format.map pure).getD (Format.ofPath path))
    let text ← readFile system path
    liftExcept (Model.ofText format text)
  | none => do
    let text ← ask system.readInput fun reason =>
      (Failure.stream reason).within "Failed to read model from stdin"
    let format := o.format.getD .json
    liftExcept ((Model.ofText format text).mapError
      (Failure.within ("Model on stdin (" ++ format.word ++ ")")))

/-- Executes a script on a connection, if there is one. -/
def execute (system : System m) (connection : Option Connection) (script : String) :
    ExceptT Failure m Unit :=
  match connection with
  | none => throw .noConnection
  | some connection => ExceptT.mk (system.execute connection script)

/-- Hands a script over: to a file, to the standard output or to a server. -/
def deliver (system : System m) (o : Options) (defaults : ConnectionDefaults)
    (target : Option Target) (script : String) : ExceptT Failure m Unit := do
  if let some path := o.output then
    ask (system.writeFile path script) (.fileWrite path)
  if o.dryRun then
    ask (system.print script) .stream
  if o.output.isNone && !o.dryRun then
    let connection ← liftExcept ((o.target target).resolve defaults)
    execute system (some connection) script

end Run

/-- Runs a command line on a system. -/
def run {m : Type → Type} [Monad m] (system : System m) (defaults : ConnectionDefaults) (o : Options) :
    ExceptT Failure m Unit := do
  let configuration ← Run.configuration system o
  let model ← Run.model system o
  let migration ← liftExcept (model.compile (o.settings configuration.settings))
  for warning in migration.warnings do
    system.report warning
  Run.deliver system o defaults configuration.target migration.sql

end Tablewright
