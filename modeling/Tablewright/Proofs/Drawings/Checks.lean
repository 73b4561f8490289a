/-
What the switch for checks decides.

A model is drawn without checks and with them.  The switch is asked for in one
place, where the check of a declared column is made, and there only behind the
check that an entity settles for itself.  So the two drawings fail alike, warn
alike and differ in nothing but the checks of declared columns; the structural
ones, those that the user gave among them, are the same to the last field.

With checks, a column has one exactly where its property has a limit that its
declared type counts.  The kind of the property plays no part in that.
-/
import Tablewright.Proofs.Drawings
import Tablewright.Proofs.Node.Conditions

namespace Tablewright

/-! ### Limits that give a check -/

/-- There is a limit that the declared type counts: on the value of a number, or on the length or
the form of a text. -/
def Traits.Limited (traits : Traits) : Prop :=
  ((traits.type = some "number" ∨ traits.type = some "integer") ∧
    (traits.facets.minimum.isSome ∨ traits.facets.maximum.isSome)) ∨
  (traits.type = some "string" ∧
    (traits.facets.minLength.isSome ∨ traits.facets.maxLength.isSome ∨
      traits.facets.pattern.isSome))

theorem Facets.onNumber_eq_nil_iff {facets : Facets} :
    facets.onNumber = [] ↔ facets.minimum = none ∧ facets.maximum = none := by
  simp [onNumber]

theorem Facets.onText_eq_nil_iff {facets : Facets} :
    facets.onText = [] ↔
      facets.minLength = none ∧ facets.maxLength = none ∧ facets.pattern = none := by
  simp [onText]

namespace Node

theorem exists_check_iff {n : Node} {column : String} :
    (∃ expression, n.check? column = some expression) ↔ n.traits.Limited := by
  rw [← Option.ne_none_iff_exists', ne_eq, check?_eq_none_iff, limits]
  unfold Traits.Limited
  by_cases hn : n.isNumeric = true
  · have hother : n.traits.type ≠ some "string" := by
      intro htext
      rw [isNumeric_eq_false_of_isText (isText_iff.mpr htext)] at hn
      exact absurd hn (by simp)
    rw [if_pos hn, Facets.onNumber_eq_nil_iff]
    simp [isNumeric_iff.mp hn, hother, Option.isSome_iff_ne_none, Classical.or_iff_not_imp_left]
  · by_cases ht : n.isText = true
    · rw [if_neg hn, if_pos ht, Facets.onText_eq_nil_iff]
      simp [isText_iff.mp ht, Option.isSome_iff_ne_none, Classical.or_iff_not_imp_left]
    · rw [if_neg hn, if_neg ht]
      simp [isNumeric_iff.not.mp hn, isText_iff.not.mp ht]

end Node

/-! ### The columns of a property -/

/-- The same settings, with checks or without. -/
def Settings.withChecks (settings : Settings) (checks : Bool) : Settings :=
  { settings with checks }

/-- The columns that a property has without checks and with them.  They differ in their check at
most, and the check that the entity settles stands in both. -/
structure Column.Rechecked (entity property : String × Node) (bare checked : Column) : Prop where
  others : checked = { bare with check := checked.check }
  settled : ∀ check, entity.2.overrides.check = some check →
    bare.check = some check ∧ checked.check = some check
  off : entity.2.overrides.check = none → bare.check = none
  on : entity.2.overrides.check = none → ∀ check, checked.check = some check ↔
    ∃ expression, property.2.check? property.1 = some expression ∧
      check = "(" ++ expression ++ ")"

theorem Column.rechecked_declaredColumn (settings : Settings) (entity property : String × Node) :
    Column.Rechecked entity property
      (Blueprint.declaredColumn (settings.withChecks false) entity.2.overrides
        ⟨settings.schema, entity.1⟩ property)
      (Blueprint.declaredColumn (settings.withChecks true) entity.2.overrides
        ⟨settings.schema, entity.1⟩ property) where
  others := rfl
  settled := by
    intro check hcheck
    simp [Blueprint.declaredColumn, Blueprint.propertyCheck, hcheck]
  off := by
    intro hcheck
    simp [Blueprint.declaredColumn, Blueprint.propertyCheck, hcheck, Settings.withChecks]
  on := by
    intro hcheck check
    have hmade : (Blueprint.declaredColumn (settings.withChecks true) entity.2.overrides
        ⟨settings.schema, entity.1⟩ property).check
        = (property.2.check? property.1).map fun expression => "(" ++ expression ++ ")" := by
      simp [Blueprint.declaredColumn, Blueprint.propertyCheck, hcheck, Settings.withChecks]
    rw [hmade, Option.map_eq_some_iff]
    exact exists_congr fun expression => and_congr_right fun _ => eq_comm

/-- The blueprints of a model without checks and with them. -/
structure Blueprint.Rechecked (m : Model) (settings : Settings) (bare checked : Blueprint) :
    Prop where
  types : checked.types = bare.types
  comments : checked.comments = bare.comments
  tables : Beside (TablesBeside (settings.withChecks false) (settings.withChecks true) Eq
    Column.Rechecked) m.entities bare.tables checked.tables

/--
**The switch for checks changes neither how a drawing ends nor what it warns of, and of what is
drawn it changes the checks of declared columns only.**
-/
theorem blueprint_rechecked (m : Model) (settings : Settings) (log : Log) :
    (∃ bare checked rest,
      (m.blueprint (settings.withChecks false)).from log = (bare, rest) ∧
      (m.blueprint (settings.withChecks true)).from log = (checked, rest) ∧
      Alike Eq (Blueprint.Rechecked m settings) bare checked) ∧
    ∀ (n : Node) (column : String),
      (∃ expression, n.check? column = some expression) ↔ n.traits.Limited := by
  have hfailure : Option.Rel Eq (m.blueprintFailure? (settings.withChecks false))
      (m.blueprintFailure? (settings.withChecks true)) := by
    show Option.Rel Eq (m.blueprintFailure? settings) (m.blueprintFailure? settings)
    cases m.blueprintFailure? settings with
    | none => exact .none
    | some failure => exact .some rfl
  refine ⟨⟨_, _, _, m.blueprint_gives _ log, m.blueprint_gives _ log, ?_⟩,
    fun _ _ => Node.exists_check_iff⟩
  refine alike_barring hfailure fun hbare hchecked => ⟨rfl, rfl, ?_⟩
  exact Model.beside_outline ⟨rfl, rfl, rfl, rfl⟩ hbare hchecked (fun _ => rfl)
    (Column.rechecked_declaredColumn settings)

end Tablewright
