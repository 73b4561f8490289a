/-
The blueprint of a model, as a plain function of it.

Drawing a blueprint fails or it does not, and which of the two has nothing to do
with what is drawn: every part of a blueprint is a function of the entity it
comes from, even where the run stops before it gets there.  `outline` is that
function, one table for every entity and its types and comments beside them, and
`blueprint_gives` says that a run that is not stopped draws just this.

What stops a run is an entity that is not an object, or a property without a
type; the first of them in the order of the document is the one that is reported.
-/
import Tablewright.Model.Blueprint
import Tablewright.Proofs.Node.SqlType
import Tablewright.Proofs.Policy.Columns

namespace Tablewright

/-! ### Entities -/

/-- The properties of an entity, of which there are none unless it is an object. -/
def Node.properties (n : Node) : List (String × Node) :=
  n.properties?.getD []

/-- What an entity settles for its own table. -/
def Node.overrides (n : Node) : Overrides :=
  n.overrides?.getD {}

@[simp] theorem Node.properties_object (properties : List (String × Node)) (overrides : Overrides)
    (traits : Traits) : (Node.object properties overrides traits).properties = properties := rfl

@[simp] theorem Node.overrides_object (properties : List (String × Node)) (overrides : Overrides)
    (traits : Traits) : (Node.object properties overrides traits).overrides = overrides := rfl

theorem Model.nodup_properties {m : Model} {entity : String × Node} (h : entity ∈ m.entities) :
    (entity.2.properties.map Prod.fst).Nodup := by
  unfold Node.properties
  cases hproperties : entity.2.properties? with
  | none => exact List.nodup_nil
  | some properties => exact m.tidy entity h properties hproperties

namespace Blueprint

/-- Why an entity is none. -/
def shapeFailure? (entity : String × Node) : Option Failure :=
  if entity.2.isObject then none else some (.notAnObject entity.1 entity.2.shape)

/-! ### Declared columns -/

/-- Why a property has no column. -/
def columnFailure? (overrides : Overrides) (address : TableAddress) (property : String × Node) :
    Option Failure :=
  if overrides.dataType.isSome then none
  else property.2.typeFailure? (address.column property.1)

/-- The column that a property becomes. -/
def declaredColumn (settings : Settings) (overrides : Overrides) (address : TableAddress)
    (property : String × Node) : Column where
  name := property.1
  type := overrides.dataType.getD (property.2.columnType (address.column property.1))
  primaryKey := overrides.primaryKey
  nullable := property.2.traits.nullable
  unique := property.2.traits.unique
  default := property.2.traits.default
  check := propertyCheck settings overrides property.1 property.2

/-- The warnings that the column of a property gives. -/
def columnWarnings (overrides : Overrides) (address : TableAddress) (property : String × Node) :
    Log :=
  if overrides.dataType.isSome then []
  else property.2.typeWarnings (address.column property.1)

theorem propertyColumn_gives (settings : Settings) (overrides : Overrides)
    (address : TableAddress) (property : String × Node) :
    Checked.Gives (propertyColumn settings overrides address property.1 property.2)
      (columnFailure? overrides address property)
      (declaredColumn settings overrides address property)
      (columnWarnings overrides address property) := by
  have htype : Checked.Gives (propertyType overrides (address.column property.1) property.2)
      (columnFailure? overrides address property)
      (overrides.dataType.getD (property.2.columnType (address.column property.1)))
      (columnWarnings overrides address property) := by
    unfold propertyType columnFailure? columnWarnings
    cases overrides.dataType with
    | some type => exact Checked.gives_pure type
    | none => exact Node.sqlType_gives _ _
  exact Checked.gives_map htype _

/-! ### One entity -/

/-- Why a property of an entity has no column; the first one is reported. -/
def typeFailure? (settings : Settings) (entity : String × Node) : Option Failure :=
  entity.2.properties.findSome? (columnFailure? entity.2.overrides ⟨settings.schema, entity.1⟩)

/-- Why an entity does not become a table. -/
def entityFailure? (settings : Settings) (entity : String × Node) : Option Failure :=
  (shapeFailure? entity).or (typeFailure? settings entity)

/-- The columns of the table of an entity. -/
def entityColumns (settings : Settings) (entity : String × Node) : List Column :=
  let overrides := entity.2.overrides
  (overrides.id.getD settings.id).idColumns
    ++ entity.2.properties.map (declaredColumn settings overrides ⟨settings.schema, entity.1⟩)
    ++ (overrides.timestamp.getD settings.timestamp).chosen Policy.timestampPair
    ++ (overrides.operator.getD settings.operator).chosen Policy.operatorPair
    ++ (overrides.softDelete.getD settings.softDelete).softDeleteColumns

/-- The declared columns follow the key, in the order of the properties. -/
theorem entityColumns_getElem? {settings : Settings} {entity : String × Node} {j : Nat}
    {property : String × Node} (h : entity.2.properties[j]? = some property) :
    (entityColumns settings entity)[(entity.2.overrides.id.getD
        settings.id).idColumns.length + j]?
      = some (declaredColumn settings entity.2.overrides ⟨settings.schema, entity.1⟩ property) := by
  have hj : j < (entity.2.properties.map (declaredColumn settings entity.2.overrides
      ⟨settings.schema, entity.1⟩)).length := by
    rw [List.length_map]
    exact (List.getElem?_eq_some_iff.mp h).1
  simp only [entityColumns, List.append_assoc]
  rw [List.getElem?_append_right (Nat.le_add_right _ _), Nat.add_sub_cancel_left,
    List.getElem?_append_left hj, List.getElem?_map, h, Option.map_some]

/-- The table of an entity. -/
def entityTable (settings : Settings) (entity : String × Node) : Table where
  name := (TableAddress.mk settings.schema entity.1).name
  columns := entityColumns settings entity

/-- The enumeration types of an entity. -/
def entityTypes (settings : Settings) (entity : String × Node) : List EnumType :=
  entity.2.properties.flatMap fun property =>
    propertyTypes ⟨settings.schema, entity.1, property.1⟩ property.2

/-- The comments of an entity. -/
def entityComments (settings : Settings) (entity : String × Node) : List Comment :=
  let address : TableAddress := ⟨settings.schema, entity.1⟩
  (entity.2.description?.map fun content => ⟨.table, address.name, content⟩).toList
    ++ entity.2.properties.flatMap fun property =>
      propertyComments (address.column property.1) property.2

/-- The blueprint of an entity, as a plain function of it. -/
def entityOutline (settings : Settings) (entity : String × Node) : Blueprint where
  tables := [entityTable settings entity]
  types := entityTypes settings entity
  comments := entityComments settings entity

/-- The warnings that an entity gives, up to where it fails. -/
def entityWarnings (settings : Settings) (entity : String × Node) : Log :=
  let overrides := entity.2.overrides
  let address : TableAddress := ⟨settings.schema, entity.1⟩
  if entity.2.isObject then
    Log.upTo (columnFailure? overrides address) (columnWarnings overrides address)
      entity.2.properties
    ++ Log.past (typeFailure? settings entity)
      ((overrides.timestamp.getD settings.timestamp).pairWarnings Policy.timestampPair "timestamp"
          address
        ++ (overrides.operator.getD settings.operator).pairWarnings Policy.operatorPair "operator"
          address)
  else []

theorem ofEntity_gives (settings : Settings) (entity : String × Node) :
    Checked.Gives (ofEntity settings entity.1 entity.2) (entityFailure? settings entity)
      (entityOutline settings entity) (entityWarnings settings entity) := by
  obtain ⟨name, node⟩ := entity
  cases node with
  | object properties overrides traits =>
      have hdeclared := Checked.gives_mapM
        (propertyColumn_gives settings overrides ⟨settings.schema, name⟩) properties
      have htimestamps := Checked.gives_liftM ((overrides.timestamp.getD
        settings.timestamp).pairColumns_gives Policy.timestampPair "timestamp"
        ⟨settings.schema, name⟩)
      have hoperators := Checked.gives_liftM ((overrides.operator.getD
        settings.operator).pairColumns_gives Policy.operatorPair "operator"
        ⟨settings.schema, name⟩)
      have hentity : Checked.Gives (ofEntity settings name (.object properties overrides traits))
          _ (entityOutline settings (name, .object properties overrides traits)) _ :=
        Checked.gives_bind hdeclared (Checked.gives_bind_of_none htimestamps
          (Checked.gives_bind_of_none hoperators (Checked.gives_pure _)))
      simpa [entityFailure?, shapeFailure?, typeFailure?, entityWarnings, Node.isObject]
        using hentity
  | _ => exact Checked.gives_throw _ _

/-! ### Every entity -/

/-- What stops the drawing of a list of entities. -/
def entitiesFailure? (settings : Settings) (entities : List (String × Node)) : Option Failure :=
  entities.findSome? (entityFailure? settings)

/-- The blueprint of a list of entities, as a plain function of it. -/
def entitiesOutline (settings : Settings) (entities : List (String × Node)) : Blueprint where
  tables := entities.map (entityTable settings)
  types := entities.flatMap (entityTypes settings)
  comments := entities.flatMap (entityComments settings)

theorem ofEntities_gives (settings : Settings) (entities : List (String × Node)) :
    Checked.Gives (ofEntities settings entities) (entitiesFailure? settings entities)
      (entitiesOutline settings entities)
      (Log.upTo (entityFailure? settings) (entityWarnings settings) entities) := by
  induction entities with
  | nil => exact Checked.gives_pure ({} : Blueprint)
  | cons entity rest ih =>
      have hfirst := ofEntity_gives settings entity
      have hall : Checked.Gives (ofEntities settings (entity :: rest)) _
          ((entityOutline settings entity).append (entitiesOutline settings rest)) _ :=
        Checked.gives_bind hfirst (Checked.gives_map ih _)
      cases hfail : entityFailure? settings entity <;> rw [hfail] at hall
        <;> simpa [entitiesFailure?, entitiesOutline, entityOutline, append, Log.upTo, hfail]
          using hall

end Blueprint

namespace Model

/-- What stops the drawing of a model. -/
def blueprintFailure? (m : Model) (settings : Settings) : Option Failure :=
  Blueprint.entitiesFailure? settings m.entities

/-- The blueprint of a model, as a plain function of it. -/
def outline (m : Model) (settings : Settings) : Blueprint :=
  Blueprint.entitiesOutline settings m.entities

/-- The warnings that drawing a model gives. -/
def blueprintWarnings (m : Model) (settings : Settings) : Log :=
  Log.upTo (Blueprint.entityFailure? settings) (Blueprint.entityWarnings settings) m.entities

/-- **What drawing the blueprint of a model comes to, from every log.** -/
theorem blueprint_gives (m : Model) (settings : Settings) :
    Checked.Gives (m.blueprint settings) (m.blueprintFailure? settings) (m.outline settings)
      (m.blueprintWarnings settings) :=
  Blueprint.ofEntities_gives settings m.entities

/-- A blueprint that is drawn is the outline. -/
theorem eq_outline {m : Model} {settings : Settings} {log rest : Log} {b : Blueprint}
    (h : (m.blueprint settings).from log = (.ok b, rest)) : b = m.outline settings :=
  ((m.blueprint_gives settings).eq_of_from h).2.symm

end Model

end Tablewright
