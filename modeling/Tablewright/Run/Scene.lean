/-
Scenes: systems that are known in advance.

A scene says beforehand how everything outside a run will answer.  A run on a
scene is a function of it, and gives a journal of what it did there.
-/
import Tablewright.Run

namespace Tablewright

open CommandLine

/-- How everything outside a run answers. -/
structure Scene where
  file : (path : String) → Except String String
  input : Except String String
  write : (path text : String) → Except String Unit
  print : (text : String) → Except String Unit
  execute : Connection → (script : String) → Except Failure Unit

/-- What a run did, in the order in which it did it. -/
structure Journal where
  /-- The files that were written, with their texts. -/
  written : List (String × String) := []
  printed : List String := []
  /-- The scripts that a server was given, with the connections to it. -/
  executed : List (Connection × String) := []
deriving DecidableEq

namespace Scene

/-- Writes a file; it is in the journal unless that failed. -/
def writeFile (s : Scene) (path text : String) : StateM Journal (Except String Unit) := do
  match s.write path text with
  | .ok () =>
    modify fun j => { j with written := j.written ++ [(path, text)] }
    pure (.ok ())
  | .error reason => pure (.error reason)

/-- Prints a text; it is in the journal unless that failed. -/
def printText (s : Scene) (text : String) : StateM Journal (Except String Unit) := do
  match s.print text with
  | .ok () =>
    modify fun j => { j with printed := j.printed ++ [text] }
    pure (.ok ())
  | .error reason => pure (.error reason)

/-- Gives a server a script; it is in the journal whatever comes of it. -/
def executeScript (s : Scene) (connection : Connection) (script : String) :
    StateM Journal (Except Failure Unit) := do
  modify fun j => { j with executed := j.executed ++ [(connection, script)] }
  pure (s.execute connection script)

/-- A scene as a system. -/
def system (s : Scene) : System (StateM Journal) where
  readFile path := pure (s.file path)
  readInput := pure s.input
  writeFile := s.writeFile
  print := s.printText
  report _ := pure ()
  execute := s.executeScript

/-- What becomes of a computation on a scene, and its journal. -/
def outcome (action : ExceptT Failure (StateM Journal) Unit) : Except Failure Unit × Journal :=
  action.run.run {}

/-- Runs a command line on a scene. -/
def run (s : Scene) (defaults : ConnectionDefaults) (o : Options) : Except Failure Unit × Journal :=
  outcome (Tablewright.run s.system defaults o)

end Scene

end Tablewright
