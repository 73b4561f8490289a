/-
Models read from texts.
-/
import Tablewright.Json.Reader
import Tablewright.Model
import Tablewright.Model.Format
import Tablewright.Yaml.Reader

namespace Tablewright.Model

/-- The model of a JSON text. -/
def ofJson (text : String) : Except Failure Model :=
  (Json.readText read text).mapError .json

/-- The model of a YAML text. -/
def ofYaml (text : String) : Except Failure Model :=
  match Yaml.parse? text with
  | none => throw .yaml
  | some t => (read t).mapError fun _ => .yaml

/-- The model of a text in a format. -/
def ofText (format : Format) (text : String) : Except Failure Model :=
  match format with
  | .json => ofJson text
  | .yaml => ofYaml text

end Tablewright.Model
