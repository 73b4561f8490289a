/-
The formats a model may be written in.
-/
import Tablewright.Failure

namespace Tablewright

/-- A format of models. -/
inductive Format
  | json
  | yaml
deriving DecidableEq

namespace Format

/-- The word for a format. -/
def word : Format → String
  | json => "json"
  | yaml => "yaml"

/-- The format of a word in lower case. -/
def ofWord? : String → Option Format
  | "json" => some json
  | "yaml" | "yml" => some yaml
  | _ => none

/-- A text with its ASCII letters in lower case. -/
def lowered (s : String) : String :=
  String.ofList (s.toList.map Char.toLower)

/-- The format of a word, whatever its case. -/
def ofName (name : String) : Except Failure Format :=
  match ofWord? (lowered name) with
  | some format => pure format
  | none => throw (.unknownFileType (lowered name))

/-- The parts of a path between its slashes, without those that stay where they are. -/
def segments (path : String) : List String :=
  ((path.splitOn "/").filter fun part => part != "" && part != ".")

/-- The name of the file at the end of a path, if the path ends in a name. -/
def fileName? (path : String) : Option String :=
  match (segments path).getLast? with
  | some ".." | none => none
  | some name => some name

/-- What follows the last dot of a file's name, unless the name starts with that dot. -/
def extension? (name : String) : Option String :=
  let reversed := name.toList.reverse
  let after := reversed.takeWhile (· != '.')
  match reversed.dropWhile (· != '.') with
  | _ :: _ :: _ => some (String.ofList after.reverse)
  | _ => none

/-- The format of the file at a path, by its extension. -/
def ofPath (path : String) : Except Failure Format :=
  match ((fileName? path).bind extension?).bind fun ext => ofWord? (lowered ext) with
  | some format => pure format
  | none => throw (.unknownFileType path)

end Format

end Tablewright
