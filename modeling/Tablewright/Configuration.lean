/-
Configurations: settings and a target, kept in a file.
-/
import Tablewright.Connection.Target
import Tablewright.Failure
import Tablewright.Settings
import Tablewright.Toml.Reader

namespace Tablewright

open Document

/-- What a file says about a run. -/
structure Configuration where
  settings : Settings := {}
  target : Option Target := none
deriving DecidableEq

namespace Configuration

/-- How a configuration is written in a document. -/
def layout : Layout Tree Configuration where
  title := "struct FileConfig"
  openEnded := true
  fields := [
    ⟨"generator", [], fun t c => return { c with settings := ← Settings.read t }⟩,
    ⟨"connection", [], fun t c => return { c with target := ← t.optional Target.read }⟩]

/-- The configuration of a TOML text. -/
def ofToml (text : String) : Except Failure Configuration :=
  match Toml.parse? text with
  | none => throw (.configuration none)
  | some t => (layout.read {} t).mapError fun _ => .configuration none

end Configuration

end Tablewright
