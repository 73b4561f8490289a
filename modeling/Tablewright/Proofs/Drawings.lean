/-
Two drawings of one model.

A model is drawn under two settings, and the outcomes are compared.  Both are
plain functions of the same entities, so nothing has to be said about the order in
which the two runs do things: what is compared are the failures of one entity, the
tables of one entity and the columns of one property.  `Beside` takes such a
comparison through the whole document, position by position.

Where the settings have the same policies, so have the two tables of an entity the
same structural columns, and only the declared ones are left to compare.
-/
import Tablewright.Proofs.Tables

namespace Tablewright

variable {α β ε : Type}

/-! ### Outcomes that correspond -/

/-- Two runs come to one end: to values that correspond, or to failures that do. -/
inductive Alike (failures : ε → ε → Prop) (values : α → α → Prop) :
    Except ε α → Except ε α → Prop
  | ok {first second : α} (h : values first second) :
      Alike failures values (.ok first) (.ok second)
  | error {first second : ε} (h : failures first second) :
      Alike failures values (.error first) (.error second)

/-- Values are compared only where neither of them is barred. -/
theorem alike_barring {failures : Failure → Failure → Prop} {values : α → α → Prop}
    {first second : Option Failure} {a b : α} (hfailure : Option.Rel failures first second)
    (hvalue : first = none → second = none → values a b) :
    Alike failures values (barring first a) (barring second b) := by
  cases hfailure with
  | none => exact .ok (hvalue rfl rfl)
  | some h => exact .error h

/-- What stops the first of two steps is compared before what stops the second. -/
theorem rel_or {R : β → β → Prop} {a b c d : Option β} (hfirst : Option.Rel R a b)
    (hsecond : Option.Rel R c d) : Option.Rel R (a.or c) (b.or d) := by
  cases hfirst with
  | none => exact hsecond
  | some h => exact .some h

/-- Two searches in one list stop at the same place. -/
theorem rel_findSome? {R : β → β → Prop} {f g : α → Option β} (h : ∀ a, Option.Rel R (f a) (g a))
    (l : List α) : Option.Rel R (l.findSome? f) (l.findSome? g) := by
  have hor : ∀ (f : α → Option β) a rest,
      (a :: rest).findSome? f = (f a).or (rest.findSome? f) := by
    intro f a rest
    rw [List.findSome?_cons]
    cases f a <;> rfl
  induction l with
  | nil => exact .none
  | cons a rest ih =>
      rw [hor, hor]
      exact rel_or (h a) ih

namespace Log

/-- Behind steps that stop together, corresponding warnings come up or none. -/
theorem forall₂_past {R : Warning → Warning → Prop} {F : Failure → Failure → Prop}
    {first second : Option Failure} {a b : Log} (hfailure : Option.Rel F first second)
    (h : List.Forall₂ R a b) : List.Forall₂ R (past first a) (past second b) := by
  cases hfailure with
  | none => exact h
  | some _ => exact .nil

/-- Two runs over one list that stop together give corresponding warnings if every step does. -/
theorem forall₂_upTo {R : Warning → Warning → Prop} {F : Failure → Failure → Prop}
    {first second : α → Option Failure} {added others : α → Log}
    (hfailure : ∀ a, Option.Rel F (first a) (second a))
    (h : ∀ a, List.Forall₂ R (added a) (others a)) (l : List α) :
    List.Forall₂ R (upTo first added l) (upTo second others l) := by
  induction l with
  | nil => exact .nil
  | cons a rest ih =>
      rw [upTo, upTo]
      exact List.rel_append (h a) (forall₂_past (hfailure a) ih)

end Log

/-! ### Lists beside each other -/

/-- What two drawings make of the elements of a list, position by position. -/
inductive Beside (R : α → β → β → Prop) : List α → List β → List β → Prop
  | nil : Beside R [] [] []
  | cons {a : α} {b c : β} {l : List α} {first second : List β} (h : R a b c)
      (hrest : Beside R l first second) : Beside R (a :: l) (b :: first) (c :: second)

theorem beside_map {R : α → β → β → Prop} {f g : α → β} {l : List α}
    (h : ∀ a ∈ l, R a (f a) (g a)) : Beside R l (l.map f) (l.map g) := by
  induction l with
  | nil => exact .nil
  | cons a rest ih =>
      rw [List.map_cons, List.map_cons]
      exact .cons (h a (by simp)) (ih fun other hother => h other (by simp [hother]))

/-! ### The tables of one entity -/

/-- The tables of an entity under two settings: their names correspond, their structural columns are
the same, and so are the declared ones up to what `columns` says. -/
structure TablesBeside (a b : Settings) (names : String → String → Prop)
    (columns : String × Node → String × Node → Column → Column → Prop) (entity : String × Node)
    (first second : Table) : Prop where
  name : names first.name second.name
  groups : ∃ groups others : ColumnGroups,
    first.columns = groups.all ∧ groups.Of a entity ∧
    second.columns = others.all ∧ others.Of b entity ∧
    others = { groups with declared := others.declared } ∧
    Beside (columns entity) entity.2.properties groups.declared others.declared

variable {a b : Settings} {names : String → String → Prop}
  {columns : String × Node → String × Node → Column → Column → Prop}

/-- The settings have the same policies; they may differ in their schema and in whether there are
checks. -/
structure Settings.SamePolicies (a b : Settings) : Prop where
  id : b.id = a.id
  timestamp : b.timestamp = a.timestamp
  operator : b.operator = a.operator
  softDelete : b.softDelete = a.softDelete

namespace Blueprint

theorem tablesBeside_entityTable (same : a.SamePolicies b) {entity : String × Node}
    (ha : entityFailure? a entity = none) (hb : entityFailure? b entity = none)
    (hname : names (entityTable a entity).name (entityTable b entity).name)
    (hcolumns : ∀ property ∈ entity.2.properties, columns entity property
      (declaredColumn a entity.2.overrides ⟨a.schema, entity.1⟩ property)
      (declaredColumn b entity.2.overrides ⟨b.schema, entity.1⟩ property)) :
    TablesBeside a b names columns entity (entityTable a entity) (entityTable b entity) := by
  refine ⟨hname, entityGroups a entity, entityGroups b entity, rfl, entityGroups_of ha, rfl,
    entityGroups_of hb, ?_, beside_map hcolumns⟩
  simp [entityGroups, Settings.within, same.id, same.timestamp, same.operator, same.softDelete]

end Blueprint

namespace Model

/-- Entities that nothing stops under either settings have tables beside each other. -/
theorem beside_outline {m : Model} (same : a.SamePolicies b) (ha : m.blueprintFailure? a = none)
    (hb : m.blueprintFailure? b = none)
    (hname : ∀ entity, names (Blueprint.entityTable a entity).name
      (Blueprint.entityTable b entity).name)
    (hcolumns : ∀ entity property, columns entity property
      (Blueprint.declaredColumn a entity.2.overrides ⟨a.schema, entity.1⟩ property)
      (Blueprint.declaredColumn b entity.2.overrides ⟨b.schema, entity.1⟩ property)) :
    Beside (TablesBeside a b names columns) m.entities (m.outline a).tables
      (m.outline b).tables := by
  have hfirst := List.findSome?_eq_none_iff.mp ha
  have hsecond := List.findSome?_eq_none_iff.mp hb
  refine beside_map fun entity hentity => ?_
  exact Blueprint.tablesBeside_entityTable same (hfirst entity hentity) (hsecond entity hentity)
    (hname entity) fun property _ => hcolumns entity property

end Model

end Tablewright
