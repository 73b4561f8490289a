/-
Settings: what a run adds to every table, and where.
-/
import Tablewright.Policy

namespace Tablewright

open Document

/-- The settings of a run. -/
structure Settings where
  /-- The schema that holds everything. -/
  schema : String := "api"
  /-- The key. -/
  id : Policy := .enabled
  /-- When a row was made and changed. -/
  timestamp : Policy := .enabled
  /-- Who made and changed a row. -/
  operator : Policy := .disabled
  /-- When a row was deleted. -/
  softDelete : Policy := .enabled
  /-- Whether limits on values become checks. -/
  checks : Bool := false
deriving DecidableEq

namespace Settings

/-- How settings are written in a document. -/
def layout : Layout Tree Settings where
  title := "struct GeneratorConfig"
  openEnded := true
  fields := [
    ⟨"schema", [], fun t s => return { s with schema := ← t.text }⟩,
    ⟨"id", [], fun t s => return { s with id := ← Policy.read t }⟩,
    ⟨"timestamp", [], fun t s => return { s with timestamp := ← Policy.read t }⟩,
    ⟨"operator", [], fun t s => return { s with operator := ← Policy.read t }⟩,
    ⟨"softDelete", [], fun t s => return { s with softDelete := ← Policy.read t }⟩,
    ⟨"checks", [], fun t s => return { s with checks := ← t.flag }⟩]

/-- Reads settings. -/
def read (t : Tree) : Read Settings :=
  layout.read {} t

end Settings

end Tablewright
