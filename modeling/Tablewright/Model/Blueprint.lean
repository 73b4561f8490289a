/-
The blueprint of a model.

Every entity becomes a table: its key, its properties in the order of the
document, and then its timestamps, its operators and its deletion mark.  What an
entity settles for itself wins over the general settings.  An enumeration adds a
type, and a description that is not blank adds a comment.
-/
import Tablewright.Blueprint
import Tablewright.Model
import Tablewright.Node.Check
import Tablewright.Node.SqlType
import Tablewright.Policy.Columns
import Tablewright.Settings

namespace Tablewright

/-- The members of the enumeration that a property is, or whose values its lists hold. -/
def Node.enumMembers? (n : Node) : Option (List Literal) :=
  n.leaf.members?

namespace Blueprint

/-- The enumeration type that a property adds. -/
def propertyTypes (address : ColumnAddress) (property : Node) : List EnumType :=
  (property.enumMembers?.map fun members => ⟨address.enumTypeName, members⟩).toList

/-- The comment that a property adds. -/
def propertyComments (address : ColumnAddress) (property : Node) : List Comment :=
  (property.description?.map fun content => ⟨.column, address.name, content⟩).toList

/-- The check of a declared column. -/
def propertyCheck (settings : Settings) (overrides : Overrides) (name : String) (property : Node) :
    Option String :=
  overrides.check.or <|
    if settings.checks then (property.check? name).map fun check => "(" ++ check ++ ")" else none

/-- The type of a declared column. -/
def propertyType (overrides : Overrides) (address : ColumnAddress) (property : Node) :
    Checked String :=
  match overrides.dataType with
  | some type => pure type
  | none => property.sqlType address

/-- The column that a property becomes. -/
def propertyColumn (settings : Settings) (overrides : Overrides) (table : TableAddress)
    (name : String) (property : Node) : Checked Column := do
  let type ← propertyType overrides (table.column name) property
  pure {
    name, type
    primaryKey := overrides.primaryKey
    nullable := property.traits.nullable
    unique := property.traits.unique
    default := property.traits.default
    check := propertyCheck settings overrides name property }

/-- The blueprint of one entity. -/
def ofEntity (settings : Settings) (name : String) (node : Node) : Checked Blueprint :=
  match node with
  | .object properties overrides _ => do
    let address : TableAddress := ⟨settings.schema, name⟩
    let declared ← properties.mapM fun (name, property) =>
      propertyColumn settings overrides address name property
    let timestamps ← (overrides.timestamp.getD settings.timestamp).timestampColumns address
    let operators ← (overrides.operator.getD settings.operator).operatorColumns address
    pure {
      tables := [{
        name := address.name
        columns := (overrides.id.getD settings.id).idColumns ++ declared ++ timestamps ++ operators
          ++ (overrides.softDelete.getD settings.softDelete).softDeleteColumns }]
      types := properties.flatMap fun (name, property) =>
        propertyTypes (address.column name) property
      comments :=
        (node.description?.map fun content => ⟨.table, address.name, content⟩).toList
        ++ properties.flatMap fun (name, property) =>
          propertyComments (address.column name) property }
  | node => throw (.notAnObject name node.shape)

/-- The blueprint of a list of entities, up to the first one that cannot become a table. -/
def ofEntities (settings : Settings) : List (String × Node) → Checked Blueprint
  | [] => pure {}
  | (name, node) :: rest => do
    let first ← ofEntity settings name node
    let others ← ofEntities settings rest
    pure (first.append others)

end Blueprint

/-- The blueprint of a model. -/
def Model.blueprint (m : Model) (settings : Settings) : Checked Blueprint :=
  Blueprint.ofEntities settings m.entities

end Tablewright
