/-
The tables of a blueprint.

Every entity becomes one table, in the order of the document.  Its columns come
in five groups: the key, the declared columns, the timestamps, the operators and
the deletion mark.  A group other than the declared columns follows from one
policy, which is the one that the entity settles for itself, and the general one
only where it settles none.

Drawing a table warns of its structural columns only where a tag names neither
column of a pair.  The other warnings of a drawing are about types, so these are
found again among all that were given.
-/
import Mathlib.Data.List.Forall2
import Tablewright.Proofs.Blueprint

namespace Tablewright

/-! ### The groups of columns -/

/-- The settings that hold for one entity.  A policy that it settles for itself, even the one that
gives no column, stands in place of the general one. -/
def Settings.within (settings : Settings) (overrides : Overrides) : Settings :=
  { settings with
    id := overrides.id.getD settings.id
    timestamp := overrides.timestamp.getD settings.timestamp
    operator := overrides.operator.getD settings.operator
    softDelete := overrides.softDelete.getD settings.softDelete }

/-- The columns of a table, group by group. -/
structure ColumnGroups where
  key : List Column
  declared : List Column
  timestamps : List Column
  operators : List Column
  mark : List Column

/-- All columns, in the order of the table. -/
def ColumnGroups.all (groups : ColumnGroups) : List Column :=
  groups.key ++ groups.declared ++ groups.timestamps ++ groups.operators ++ groups.mark

/-- The column that a property of an entity becomes. -/
structure Declares (settings : Settings) (entity property : String × Node) (column : Column) :
    Prop where
  name : column.name = property.1
  /-- A type that the entity settles is taken as it stands. -/
  settled : ∀ type, entity.2.overrides.dataType = some type → column.type = type
  /-- Any other type is the one of the property, whatever was warned of before. -/
  mapped : entity.2.overrides.dataType = none → ∀ log, ∃ rest,
    (property.2.sqlType ⟨settings.schema, entity.1, property.1⟩).from log = (.ok column.type, rest)
  primaryKey : column.primaryKey = entity.2.overrides.primaryKey
  nullable : column.nullable = property.2.traits.nullable
  unique : column.unique = property.2.traits.unique
  default : column.default = property.2.traits.default
  check : column.check
    = Blueprint.propertyCheck settings entity.2.overrides property.1 property.2

/-- The groups of columns that an entity has. -/
structure ColumnGroups.Of (settings : Settings) (entity : String × Node) (groups : ColumnGroups) :
    Prop where
  key : (settings.within entity.2.overrides).id.SuppliesKey groups.key
  declared : List.Forall₂ (Declares settings entity) entity.2.properties groups.declared
  timestamps : Policy.SuppliesPair [Policy.stamp "create_at", Policy.stamp "update_at"]
    (settings.within entity.2.overrides).timestamp groups.timestamps
  operators : Policy.SuppliesPair [Policy.signature "create_by", Policy.signature "update_by"]
    (settings.within entity.2.overrides).operator groups.operators
  mark : (settings.within entity.2.overrides).softDelete.SuppliesMark groups.mark

/-- The table that an entity becomes. -/
structure Tabulates (settings : Settings) (entity : String × Node) (table : Table) : Prop where
  object : entity.2.isObject = true
  name : table.name = settings.schema ++ "." ++ entity.1
  columns : ∃ groups : ColumnGroups, table.columns = groups.all ∧ groups.Of settings entity

/-- The warnings about tags that name neither column of a pair. -/
def tagWarnings (settings : Settings) (entity : String × Node) : Log :=
  let table := settings.schema ++ "." ++ entity.1
  let policies := settings.within entity.2.overrides
  let stamps := ["create_at", "update_at"]
  let signatures := ["create_by", "update_by"]
  ((policies.timestamp.strayTag? stamps).map
    (Policy.strayTagWarning "timestamp" table stamps)).toList
  ++ ((policies.operator.strayTag? signatures).map
    (Policy.strayTagWarning "operator" table signatures)).toList

namespace Blueprint

variable {settings : Settings} {entity : String × Node}

/-! ### The table of an entity -/

theorem declares_declaredColumn {property : String × Node}
    (typed : columnFailure? entity.2.overrides ⟨settings.schema, entity.1⟩ property = none) :
    Declares settings entity property
      (declaredColumn settings entity.2.overrides ⟨settings.schema, entity.1⟩ property) where
  name := rfl
  settled type h := by simp [declaredColumn, h]
  mapped h log := by
    have hfailure : property.2.typeFailure? ⟨settings.schema, entity.1, property.1⟩ = none := by
      rw [columnFailure?, h] at typed
      exact typed
    have hrun := property.2.sqlType_gives ⟨settings.schema, entity.1, property.1⟩ log
    have htype : (declaredColumn settings entity.2.overrides ⟨settings.schema, entity.1⟩
        property).type = property.2.columnType ⟨settings.schema, entity.1, property.1⟩ := by
      simp [declaredColumn, h, TableAddress.column]
    rw [hfailure, barring_none, ← htype] at hrun
    exact ⟨_, hrun⟩
  primaryKey := rfl
  nullable := rfl
  unique := rfl
  default := rfl
  check := rfl

/-- The columns of the table of an entity, group by group. -/
def entityGroups (settings : Settings) (entity : String × Node) : ColumnGroups where
  key := (settings.within entity.2.overrides).id.idColumns
  declared := entity.2.properties.map
    (declaredColumn settings entity.2.overrides ⟨settings.schema, entity.1⟩)
  timestamps := (settings.within entity.2.overrides).timestamp.chosen Policy.timestampPair
  operators := (settings.within entity.2.overrides).operator.chosen Policy.operatorPair
  mark := (settings.within entity.2.overrides).softDelete.softDeleteColumns

theorem entityGroups_of (h : entityFailure? settings entity = none) :
    (entityGroups settings entity).Of settings entity := by
  have typed := List.findSome?_eq_none_iff.mp (Option.or_eq_none_iff.mp h).2
  refine ⟨Policy.suppliesKey_idColumns _, ?_, Policy.suppliesPair_chosen _ _,
    Policy.suppliesPair_chosen _ _, Policy.suppliesMark_softDeleteColumns _⟩
  show List.Forall₂ _ _ (entity.2.properties.map _)
  rw [List.forall₂_map_right_iff, List.forall₂_same]
  exact fun property hproperty => declares_declaredColumn (typed property hproperty)

/-- An entity that nothing stops becomes its table. -/
theorem tabulates_entityTable (h : entityFailure? settings entity = none) :
    Tabulates settings entity (entityTable settings entity) := by
  refine ⟨?_, rfl, entityGroups settings entity, rfl, entityGroups_of h⟩
  have hshape := (Option.or_eq_none_iff.mp h).1
  unfold shapeFailure? at hshape
  simpa using hshape

/-! ### Warnings about tags -/

/-- The warnings of an entity that nothing stops: those of its declared columns, and then those
about its tags. -/
theorem entityWarnings_of_none (h : entityFailure? settings entity = none) :
    entityWarnings settings entity
      = entity.2.properties.flatMap
          (columnWarnings entity.2.overrides ⟨settings.schema, entity.1⟩)
        ++ tagWarnings settings entity := by
  obtain ⟨hshape, htypes⟩ := Option.or_eq_none_iff.mp h
  have hobject : entity.2.isObject = true := by
    unfold shapeFailure? at hshape
    simpa using hshape
  simp only [entityWarnings]
  rw [if_pos hobject, htypes, Log.past_none,
    Log.upTo_of_none _ (List.findSome?_eq_none_iff.mp htypes), Policy.pairWarnings_eq,
    Policy.pairWarnings_eq]
  rfl

/-- The warnings of a declared column are about its type. -/
theorem kind_of_mem_columnWarnings {overrides : Overrides} {address : TableAddress}
    {property : String × Node} {w : Warning} (hw : w ∈ columnWarnings overrides address property) :
    w.kind = .unknownNumericFormat := by
  unfold columnWarnings at hw
  split at hw
  · exact absurd hw (by simp)
  · rw [Node.typeWarnings_eq, Option.mem_toList, Option.map_eq_some_iff] at hw
    obtain ⟨format, -, rfl⟩ := hw
    rfl

theorem kind_of_mem_tagWarnings {w : Warning} (hw : w ∈ tagWarnings settings entity) :
    w.kind = .unknownStructuralColumn := by
  simp only [tagWarnings, List.mem_append, Option.mem_toList, Option.map_eq_some_iff] at hw
  rcases hw with ⟨_, -, rfl⟩ | ⟨_, -, rfl⟩
  · rfl
  · rfl

end Blueprint

namespace Model

/-- Entities that nothing stops become their tables. -/
theorem tabulates_outline {m : Model} {settings : Settings}
    (h : m.blueprintFailure? settings = none) :
    List.Forall₂ (Tabulates settings) m.entities (m.outline settings).tables := by
  have hentities := List.findSome?_eq_none_iff.mp h
  show List.Forall₂ _ _ (m.entities.map _)
  rw [List.forall₂_map_right_iff, List.forall₂_same]
  exact fun entity hentity => Blueprint.tabulates_entityTable (hentities entity hentity)

/-- The warnings of a drawing that is not stopped. -/
theorem blueprintWarnings_of_none {m : Model} {settings : Settings}
    (h : m.blueprintFailure? settings = none) :
    m.blueprintWarnings settings
      = m.entities.flatMap fun entity =>
          entity.2.properties.flatMap
            (Blueprint.columnWarnings entity.2.overrides ⟨settings.schema, entity.1⟩)
          ++ tagWarnings settings entity := by
  have hentities := List.findSome?_eq_none_iff.mp h
  rw [blueprintWarnings, Log.upTo_of_none _ hentities]
  exact List.flatMap_congr fun entity hentity =>
    Blueprint.entityWarnings_of_none (hentities entity hentity)

end Model

/--
**The tables are those of the entities, and each structural column comes from one policy.**
-/
theorem tables_exact {m : Model} {settings : Settings} {log rest : Log} {b : Blueprint}
    (drawn : (m.blueprint settings).from log = (.ok b, rest)) :
    List.Forall₂ (Tabulates settings) m.entities b.tables ∧
    rest.filter (·.kind = .unknownStructuralColumn)
      = log.filter (·.kind = .unknownStructuralColumn)
        ++ m.entities.flatMap (tagWarnings settings) := by
  obtain ⟨hfailure, rfl⟩ := (m.blueprint_gives settings).eq_of_from drawn
  obtain rfl := (m.blueprint_gives settings).log_of_from drawn
  constructor
  · exact Model.tabulates_outline hfailure
  · rw [List.filter_append, Model.blueprintWarnings_of_none hfailure, List.filter_flatMap]
    congr 2
    funext entity
    have hcolumns : (entity.2.properties.flatMap (Blueprint.columnWarnings entity.2.overrides
        ⟨settings.schema, entity.1⟩)).filter (·.kind = .unknownStructuralColumn) = [] := by
      rw [List.filter_eq_nil_iff]
      intro w hw
      obtain ⟨property, -, hw⟩ := List.mem_flatMap.mp hw
      simp [Blueprint.kind_of_mem_columnWarnings hw]
    have htags : (tagWarnings settings entity).filter (·.kind = .unknownStructuralColumn)
        = tagWarnings settings entity := by
      rw [List.filter_eq_self]
      intro w hw
      simp [Blueprint.kind_of_mem_tagWarnings hw]
    rw [List.filter_append, hcolumns, htags, List.nil_append]

/-- A log that settles every group for itself: a key of another type, a tag that names no timestamp,
no operators, and an empty list in place of the deletion mark. -/
def settledLog : Model :=
  Model.ofList [("log", .object
    [("level", .scalar (some "int2") { type := some "integer", nullable := some false })]
    { id := some (.tagged "uuid"), timestamp := some (.tagged "created"),
      operator := some .disabled, softDelete := some (.columns []) } {})]

theorem tables_exact_log : ∃ b rest table level,
    (settledLog.blueprint { operator := .enabled }).from [] = (.ok b, rest) ∧
    b.tables = [table] ∧ table.name = "api.log" ∧
    table.columns = [Policy.key "uuid", level, Policy.stamp "create_at", Policy.stamp "update_at"] ∧
    level.name = "level" ∧ level.nullable = some false ∧
    (rest.filter (·.kind = .unknownStructuralColumn)).map (·.target) = ["api.log"] := by
  have drawn : (settledLog.blueprint { operator := .enabled }).from []
      = (.ok (settledLog.outline { operator := .enabled }),
        settledLog.blueprintWarnings { operator := .enabled }) := by rfl
  obtain ⟨htables, hwarnings⟩ := tables_exact drawn
  have hentities : settledLog.entities = [("log", .object
      [("level", .scalar (some "int2") { type := some "integer", nullable := some false })]
      { id := some (.tagged "uuid"), timestamp := some (.tagged "created"),
        operator := some .disabled, softDelete := some (.columns []) } {})] := by rfl
  rw [hentities] at htables hwarnings
  obtain ⟨table, rest, htable, hrest, hb⟩ := List.forall₂_cons_left_iff.mp htables
  obtain rfl := List.forall₂_nil_left_iff.mp hrest
  obtain ⟨-, hname, ⟨key, declared, timestamps, operators, mark⟩, hcolumns, hgroups⟩ := htable
  obtain ⟨level, none, hlevel, hnone, rfl⟩ := List.forall₂_cons_left_iff.mp hgroups.declared
  obtain rfl := List.forall₂_nil_left_iff.mp hnone
  have hkey : key = [Policy.key "uuid"] := by
    have hsupplied : (Policy.tagged "uuid").SuppliesKey key := hgroups.key
    cases hsupplied with
    | tagged h => exact h
  have hoperators : operators = [] := by
    have hsupplied : Policy.SuppliesPair _ .disabled operators := hgroups.operators
    cases hsupplied
    rfl
  have hmark : mark = [] := by
    have hsupplied : (Policy.columns []).SuppliesMark mark := hgroups.mark
    cases hsupplied
    rfl
  have htimestamps : timestamps = [Policy.stamp "create_at", Policy.stamp "update_at"] := by
    have hsupplied : Policy.SuppliesPair _ (.tagged "created") timestamps := hgroups.timestamps
    cases hsupplied with
    | tagged h =>
        cases h with
        | named hc h =>
            have hnone : ∀ c ∈ [Policy.stamp "create_at", Policy.stamp "update_at"],
                c.name ≠ "created" := by decide
            exact absurd h (hnone _ hc)
        | neither _ => rfl
  subst hkey hoperators hmark htimestamps
  exact ⟨_, _, table, level, drawn, hb, hname, hcolumns, hlevel.name, hlevel.nullable,
    by rw [hwarnings]; decide +kernel⟩

end Tablewright
