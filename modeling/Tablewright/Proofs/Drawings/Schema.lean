/-
What the schema of a drawing decides.

A model is drawn in two schemas.  The schema stands in front of the names that are
derived from where something lies, and nowhere else: `Moved` says of two names that
they differ in this one part.  The names of tables and types, the targets of
comments and warnings and the column that a failure is about are moved, and all
that the model itself wrote stays, a type that begins like the schema included.

Of the types of columns only those of enumerations are derived names.  That is why
the columns are compared property by property: whether a type is moved cannot be
seen from the type.
-/
import Tablewright.Proofs.Comments
import Tablewright.Proofs.Drawings
import Tablewright.Proofs.EnumTypes

namespace Tablewright

variable {s t : String}

/-! ### Names in two schemas -/

/-- One name, in the schema `s` and in the schema `t`. -/
def Moved (s t first second : String) : Prop :=
  ∃ name, first = s ++ "." ++ name ∧ second = t ++ "." ++ name

theorem moved_table (name : String) :
    Moved s t (TableAddress.mk s name).name (TableAddress.mk t name).name :=
  ⟨name, rfl, rfl⟩

theorem Moved.append {first second : String} (h : Moved s t first second) (rest : String) :
    Moved s t (first ++ rest) (second ++ rest) := by
  obtain ⟨name, rfl, rfl⟩ := h
  exact ⟨name ++ rest, String.append_assoc, String.append_assoc⟩

theorem moved_column (table column : String) :
    Moved s t (ColumnAddress.mk s table column).name (ColumnAddress.mk t table column).name :=
  ((moved_table table).append ".").append column

theorem moved_enumType (table column : String) :
    Moved s t (ColumnAddress.mk s table column).enumTypeName
      (ColumnAddress.mk t table column).enumTypeName :=
  ((moved_table table).append "_").append column

/-! ### What corresponds -/

/-- The same failure, of an entity or of the column that has moved. -/
inductive Failure.Relocated (s t : String) : Failure → Failure → Prop
  | notAnObject (entity found : String) :
      Relocated s t (.notAnObject entity found) (.notAnObject entity found)
  | missingItems {first second : String} (h : Moved s t first second) :
      Relocated s t (.missingItems first) (.missingItems second)
  | enumBase {first second : String} (h : Moved s t first second) (found : String) :
      Relocated s t (.enumBase first found) (.enumBase second found)

/-- The same warning about what has moved. -/
structure Warning.Relocated (s t : String) (first second : Warning) : Prop where
  kind : second.kind = first.kind
  target : Moved s t first.target second.target
  message : second.message = first.message

/-- The type has moved with its members. -/
structure EnumType.Relocated (s t : String) (first second : EnumType) : Prop where
  name : Moved s t first.name second.name
  members : second.members = first.members

/-- The same comment on what has moved. -/
structure Comment.Relocated (s t : String) (first second : Comment) : Prop where
  kind : second.kind = first.kind
  target : Moved s t first.target second.target
  content : second.content = first.content

/-- The node is an enumeration, or a list of enumerations to any depth. -/
def Node.HoldsEnum (n : Node) : Prop :=
  ∃ members k, n.Nests members k

/-- The column of the property has a type that is made for it. -/
def HasOwnType (entity property : String × Node) : Prop :=
  entity.2.overrides.dataType = none ∧ property.2.HoldsEnum

/-- The columns that a property has in two schemas.  They differ in their type at most, and in that
only where the type is made for the column. -/
structure Column.Relocated (s t : String) (entity property : String × Node)
    (first second : Column) : Prop where
  others : second = { first with type := second.type }
  own : HasOwnType entity property → Moved s t first.type second.type
  given : ¬ HasOwnType entity property → second.type = first.type

/-- The same settings for another schema. -/
def Settings.withSchema (settings : Settings) (schema : String) : Settings :=
  { settings with schema }

/-- The blueprints of a model in two schemas, position by position. -/
structure Blueprint.Relocated (m : Model) (settings : Settings) (s t : String)
    (first second : Blueprint) : Prop where
  tables : Beside (TablesBeside (settings.withSchema s) (settings.withSchema t) (Moved s t)
    (Column.Relocated s t)) m.entities first.tables second.tables
  types : List.Forall₂ (EnumType.Relocated s t) first.types second.types
  comments : List.Forall₂ (Comment.Relocated s t) first.comments second.comments

/-! ### Types of columns -/

/-- A type that is not made for its column is the same for every column. -/
theorem Node.columnType_congr {n : Node} (h : ¬ n.HoldsEnum) (a b : ColumnAddress) :
    n.columnType a = n.columnType b := by
  unfold columnType
  cases hleaf : n.leaf with
  | enumeration members traits => exact absurd ⟨members, _, nests_of_leaf hleaf⟩ h
  | _ => rfl

theorem Column.relocated_declaredColumn (settings : Settings) (entity property : String × Node) :
    Column.Relocated s t entity property
      (Blueprint.declaredColumn (settings.withSchema s) entity.2.overrides ⟨s, entity.1⟩ property)
      (Blueprint.declaredColumn (settings.withSchema t) entity.2.overrides ⟨t, entity.1⟩ property)
    where
  others := rfl
  own := by
    rintro ⟨htype, members, k, hnests⟩
    simp only [Blueprint.declaredColumn, htype, Option.getD_none, hnests.columnType_eq]
    exact (moved_enumType entity.1 property.1).append _
  given := by
    intro hgiven
    unfold Blueprint.declaredColumn
    cases htype : entity.2.overrides.dataType with
    | some type => rfl
    | none => exact Node.columnType_congr (fun hholds => hgiven ⟨htype, hholds⟩) _ _

/-- A type that the model wrote stays, whatever it begins with. -/
example : (Blueprint.declaredColumn (Settings.withSchema {} "new") {} ⟨"new", "user"⟩
    ("state", .scalar none { type := some "old.user_state" })).type = "old.user_state" := by
  decide

/-! ### Failures -/

theorem Failure.relocated_leafFailure? (entity property : String) (n : Node) :
    Option.Rel (Failure.Relocated s t) (n.leafFailure? ⟨s, entity, property⟩)
      (n.leafFailure? ⟨t, entity, property⟩) := by
  cases n with
  | bareList traits => exact .some (.missingItems (moved_column entity property))
  | enumeration members traits =>
      by_cases hadmits : Node.Admits traits
      · rw [Node.leafFailure?, Node.leafFailure?, if_pos hadmits, if_pos hadmits]
        exact .none
      · rw [Node.leafFailure?, Node.leafFailure?, if_neg hadmits, if_neg hadmits]
        exact .some (.enumBase (moved_column entity property) _)
  | _ => exact .none

theorem Failure.relocated_columnFailure? (entity property : String × Node) :
    Option.Rel (Failure.Relocated s t)
      (Blueprint.columnFailure? entity.2.overrides ⟨s, entity.1⟩ property)
      (Blueprint.columnFailure? entity.2.overrides ⟨t, entity.1⟩ property) := by
  unfold Blueprint.columnFailure?
  split
  · exact .none
  · exact relocated_leafFailure? entity.1 property.1 property.2.leaf

theorem Failure.relocated_typeFailure? (settings : Settings) (entity : String × Node) :
    Option.Rel (Failure.Relocated s t) (Blueprint.typeFailure? (settings.withSchema s) entity)
      (Blueprint.typeFailure? (settings.withSchema t) entity) :=
  rel_findSome? (relocated_columnFailure? entity) _

theorem Failure.relocated_entityFailure? (settings : Settings) (entity : String × Node) :
    Option.Rel (Failure.Relocated s t) (Blueprint.entityFailure? (settings.withSchema s) entity)
      (Blueprint.entityFailure? (settings.withSchema t) entity) := by
  refine rel_or ?_ (relocated_typeFailure? settings entity)
  unfold Blueprint.shapeFailure?
  split
  · exact .none
  · exact .some (.notAnObject entity.1 entity.2.shape)

/-! ### Warnings -/

/-- A warning that may come up, about what has moved. -/
theorem Warning.relocated_toList {α : Type} {first second : α → Warning}
    (h : ∀ a, Warning.Relocated s t (first a) (second a)) (odd? : Option α) :
    List.Forall₂ (Warning.Relocated s t) (odd?.map first).toList (odd?.map second).toList := by
  cases odd? with
  | none => exact .nil
  | some odd => exact .cons (h odd) .nil

theorem Warning.relocated_columnWarnings (entity property : String × Node) :
    List.Forall₂ (Warning.Relocated s t)
      (Blueprint.columnWarnings entity.2.overrides ⟨s, entity.1⟩ property)
      (Blueprint.columnWarnings entity.2.overrides ⟨t, entity.1⟩ property) := by
  unfold Blueprint.columnWarnings
  split
  · exact .nil
  · have hformat : ∀ format, Warning.Relocated s t
        (Node.unknownFormatWarning ⟨s, entity.1, property.1⟩ format)
        (Node.unknownFormatWarning ⟨t, entity.1, property.1⟩ format) :=
      fun _ => ⟨rfl, moved_column entity.1 property.1, rfl⟩
    rw [Node.typeWarnings_eq, Node.typeWarnings_eq]
    exact relocated_toList hformat _

theorem Warning.relocated_pairWarnings (policy : Policy) (pair : List Column)
    (title entity : String) :
    List.Forall₂ (Warning.Relocated s t) (policy.pairWarnings pair title ⟨s, entity⟩)
      (policy.pairWarnings pair title ⟨t, entity⟩) := by
  have htag : ∀ tag, Warning.Relocated s t
      (Policy.strayTagWarning title (TableAddress.mk s entity).name (pair.map (·.name)) tag)
      (Policy.strayTagWarning title (TableAddress.mk t entity).name (pair.map (·.name)) tag) :=
    fun _ => ⟨rfl, moved_table entity, rfl⟩
  rw [Policy.pairWarnings_eq, Policy.pairWarnings_eq]
  exact relocated_toList htag _

theorem Warning.relocated_entityWarnings (settings : Settings) (entity : String × Node) :
    List.Forall₂ (Warning.Relocated s t)
      (Blueprint.entityWarnings (settings.withSchema s) entity)
      (Blueprint.entityWarnings (settings.withSchema t) entity) := by
  unfold Blueprint.entityWarnings
  split
  · refine List.rel_append (Log.forall₂_upTo (Failure.relocated_columnFailure? entity)
      (relocated_columnWarnings entity) _) ?_
    refine Log.forall₂_past (Failure.relocated_typeFailure? settings entity) ?_
    exact List.rel_append (relocated_pairWarnings _ _ _ entity.1)
      (relocated_pairWarnings _ _ _ entity.1)
  · exact .nil

/-! ### Blueprints -/

theorem Blueprint.relocated_outline {m : Model} {settings : Settings}
    (hs : m.blueprintFailure? (settings.withSchema s) = none)
    (ht : m.blueprintFailure? (settings.withSchema t) = none) :
    Blueprint.Relocated m settings s t (m.outline (settings.withSchema s))
      (m.outline (settings.withSchema t)) where
  tables := Model.beside_outline ⟨rfl, rfl, rfl, rfl⟩ hs ht (fun entity => moved_table entity.1)
    (Column.relocated_declaredColumn settings)
  types := by
    rw [Model.outline_types, Model.outline_types, List.forall₂_map_left_iff,
      List.forall₂_map_right_iff, List.forall₂_same]
    exact fun p _ => ⟨⟨p.stem, rfl, rfl⟩, rfl⟩
  comments := by
    rw [Model.outline_comments, Model.outline_comments, List.forall₂_map_left_iff,
      List.forall₂_map_right_iff, List.forall₂_same]
    rintro ⟨entity, property, content⟩ -
    cases property with
    | none => exact ⟨rfl, moved_table entity, rfl⟩
    | some property => exact ⟨rfl, moved_column entity property, rfl⟩

/--
**In another schema a model fails alike or is drawn alike, and only the names that are derived from
the schema have moved.**
-/
theorem blueprint_relocated (m : Model) (settings : Settings) (s t : String) (log : Log) :
    ∃ first second added others,
      (m.blueprint (settings.withSchema s)).from log = (first, log ++ added) ∧
      (m.blueprint (settings.withSchema t)).from log = (second, log ++ others) ∧
      Alike (Failure.Relocated s t) (Blueprint.Relocated m settings s t) first second ∧
      List.Forall₂ (Warning.Relocated s t) added others := by
  have hfailure : Option.Rel (Failure.Relocated s t) (m.blueprintFailure? (settings.withSchema s))
      (m.blueprintFailure? (settings.withSchema t)) :=
    rel_findSome? (Failure.relocated_entityFailure? settings) m.entities
  refine ⟨_, _, _, _, m.blueprint_gives _ log, m.blueprint_gives _ log, ?_, ?_⟩
  · exact alike_barring hfailure fun hs ht => Blueprint.relocated_outline hs ht
  · exact Log.forall₂_upTo (Failure.relocated_entityFailure? settings)
      (Warning.relocated_entityWarnings settings) m.entities

end Tablewright
