/-
Validation: what can be said of a model before it is compiled.

A rule looks at a whole model and gives a verdict.  Objections make the model
unfit to be compiled; remarks do not.  A verdict says by a flag of its own whether
the model is fit, and every way to make one sets the flag.  The verdict of several
rules is the verdict of each, one after the other.
-/
import Tablewright.Model
import Tablewright.Text.Join
import Tablewright.Text.Letter
import Tablewright.Text.Numeral
import Tablewright.Warning

namespace Tablewright.Validation

/-- What makes a model unfit: an entity that is not an object. -/
structure Objection where
  entity : String
  /-- What the entity is instead. -/
  found : String
  message : String
deriving DecidableEq

namespace Objection

/-- An objection as it is shown. -/
def text (o : Objection) : String :=
  "[" ++ o.entity ++ "] " ++ o.message

/-- The failure that an objection stands for. -/
def failure (o : Objection) : Failure :=
  .notAnObject o.entity o.found

end Objection

/-- What a remark is about. -/
inductive RemarkKind
  | noProperties
  | unquotedIdentifier
deriving DecidableEq

/-- What is odd about a model. -/
structure Remark where
  kind : RemarkKind
  /-- The entity, or the entity and the property with a dot between them. -/
  path : String
  message : String
deriving DecidableEq

namespace Remark

/-- A remark as it is shown. -/
def text (r : Remark) : String :=
  "[" ++ r.path ++ "] Warning: " ++ r.message

/-- The warning that a remark becomes. -/
def warning (r : Remark) : Warning :=
  ⟨match r.kind with
    | .noProperties => .emptyEntity
    | .unquotedIdentifier => .unquotedIdentifier,
   r.path, r.message⟩

end Remark

/-- What validation finds. -/
structure Verdict where
  /-- Whether the model is fit to be compiled. -/
  valid : Bool := true
  objections : List Objection := []
  remarks : List Remark := []
deriving DecidableEq

namespace Verdict

/-- Nothing is found. -/
def ok : Verdict := {}

/-- One objection. -/
def error (o : Objection) : Verdict :=
  { valid := false, objections := [o] }

/-- Adds an objection. -/
def addError (v : Verdict) (o : Objection) : Verdict :=
  { v with valid := false, objections := v.objections ++ [o] }

/-- Adds a remark. -/
def addRemark (v : Verdict) (r : Remark) : Verdict :=
  { v with remarks := v.remarks ++ [r] }

/-- What one verdict finds and then what the other does. -/
def merge (v w : Verdict) : Verdict where
  valid := if w.valid then v.valid else false
  objections := v.objections ++ w.objections
  remarks := v.remarks ++ w.remarks

/-- Nothing but these objections, added one by one. -/
def ofObjections (objections : List Objection) : Verdict :=
  objections.foldl addError ok

/-- Nothing but these remarks, added one by one. -/
def ofRemarks (remarks : List Remark) : Verdict :=
  remarks.foldl addRemark ok

/-- The messages of the objections. -/
def message (v : Verdict) : String :=
  Text.join "; " (v.objections.map (·.message))

/-- Fails with the first objection. -/
def toResult (v : Verdict) : Except Failure Unit :=
  match v.objections with
  | [] => pure ()
  | o :: _ => throw o.failure

end Verdict

/-! ### Rules -/

/-- A rule. -/
structure Rule where
  name : String
  description : String
  check : Model → Verdict

/-- Whether a name can stand in SQL without quotes. -/
def isIdentifier (s : String) : Bool :=
  match s.toList with
  | [] => false
  | first :: rest =>
    (Text.isLetter first || first = '_') &&
      rest.all fun c => Text.isLetter c || Text.isNumeral c || c = '_'

/-- The objection to an entity that is not an object. -/
def entityObjection? (name : String) (node : Node) : Option Objection :=
  if node.isObject then none
  else some ⟨name, node.shape,
    "Entity '" ++ name ++ "' must be of type object, but got " ++ node.shape⟩

/-- The remark on an entity without properties. -/
def emptyRemark? (name : String) (node : Node) : Option Remark :=
  if node.properties?.any (·.isEmpty) then
    some ⟨.noProperties, name, "Entity '" ++ name ++ "' has no properties"⟩
  else none

/-- The remark on the name of an entity. -/
def entityNameRemark? (name : String) : Option Remark :=
  if isIdentifier name then none
  else some ⟨.unquotedIdentifier, name, "Entity name '" ++ name ++ "' is not a plain identifier"⟩

/-- The remark on the name of a property. -/
def propertyNameRemark? (entity name : String) : Option Remark :=
  if isIdentifier name then none
  else some ⟨.unquotedIdentifier, entity ++ "." ++ name,
    "Property name '" ++ name ++ "' is not a plain identifier"⟩

/-- The remarks on the names of an entity and of its properties. -/
def nameRemarks (name : String) (node : Node) : List Remark :=
  (entityNameRemark? name).toList
  ++ (node.properties?.getD []).filterMap fun (property, _) => propertyNameRemark? name property

/-- Every entity is an object. -/
def entityType : Rule where
  name := "entity_type"
  description := "Validates that every entity is declared with type object"
  check m := .ofObjections (m.entities.filterMap fun (name, node) => entityObjection? name node)

/-- Entities declare properties. -/
def entityProperties : Rule where
  name := "entity_properties"
  description := "Warns about entities without declared properties"
  check m := .ofRemarks (m.entities.filterMap fun (name, node) => emptyRemark? name node)

/-- Names need no quotes. -/
def identifiers : Rule where
  name := "identifiers"
  description := "Warns about names that PostgreSQL would need quoted"
  check m := .ofRemarks (m.entities.flatMap fun (name, node) => nameRemarks name node)

/-- The built-in rules. -/
def rules : List Rule := [entityType, entityProperties, identifiers]

/-- The built-in rule of this name. -/
def rule? (name : String) : Option Rule :=
  rules.find? (·.name == name)

/-- The rules that make a model unfit. -/
def fatal : List Rule := [entityType]

/-- The rules that only remark. -/
def lints : List Rule := [entityProperties, identifiers]

/-- The verdict of several rules. -/
def validate (rules : List Rule) (m : Model) : Verdict :=
  rules.foldl (fun verdict rule => verdict.merge (rule.check m)) .ok

/-! ### Verdicts step by step -/

/-- A step in the making of a verdict. -/
inductive Step
  /-- Starts over with nothing. -/
  | ok
  /-- Starts over with one objection. -/
  | error (o : Objection)
  | addError (o : Objection)
  | addRemark (r : Remark)
  /-- Merges the verdict that other steps make. -/
  | merge (steps : List Step)

mutual

/-- Takes a step. -/
def Step.apply (v : Verdict) : Step → Verdict
  | .ok => .ok
  | .error o => .error o
  | .addError o => v.addError o
  | .addRemark r => v.addRemark r
  | .merge steps => v.merge (Step.applyAll .ok steps)

/-- Takes steps one after the other. -/
def Step.applyAll (v : Verdict) : List Step → Verdict
  | [] => v
  | step :: rest => Step.applyAll (Step.apply v step) rest

end

end Validation

namespace Model

open Validation

/-- Fails at the first entity that is not an object. -/
def validate (m : Model) : Except Failure Unit :=
  (Validation.validate fatal m).toResult

end Model

end Tablewright
