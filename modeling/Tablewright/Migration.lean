/-
Migrations: models compiled to scripts.
-/
import Tablewright.Model.Blueprint
import Tablewright.Script
import Tablewright.Validation

namespace Tablewright

/-- A compiled model. -/
structure Migration where
  /-- What the script creates. -/
  blueprint : Blueprint
  sql : String
  /-- Everything that came up on the way. -/
  warnings : Log

namespace Migration

/-- Whether anything came up on the way. -/
def hasWarnings (m : Migration) : Bool :=
  !m.warnings.isEmpty

end Migration

namespace Model

/-- Remarks on the model, its blueprint and the script of it. -/
def script (m : Model) (settings : Settings) : Checked (Blueprint × String) := do
  modifyThe Log (· ++ (Validation.validate Validation.lints m).remarks.map Validation.Remark.warning)
  let blueprint ← m.blueprint settings
  let sql ← Script.ofBlueprint settings.schema blueprint
  pure (blueprint, sql)

/-- Validates a model, draws its blueprint and writes the script; nothing is left of a run that fails. -/
def compile (m : Model) (settings : Settings) : Except Failure Migration := do
  m.validate
  let (result, warnings) := (m.script settings).from []
  let (blueprint, sql) ← result
  pure { blueprint, sql, warnings }

end Model

end Tablewright
