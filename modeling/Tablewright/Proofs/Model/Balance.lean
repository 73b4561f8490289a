/-
The blueprint of a balanced model is balanced.

A model is balanced when its names, its declared types, the texts among its
defaults and its overrides are; settings are when their schema and their policies
are.  Descriptions, members of enumerations and patterns are under no condition.
Everything that a blueprint takes over to be written as it stands is put together
from the former, from fixed words and from numbers; a pattern is the one free text
in a check, and stands there as a constant.
-/
import Tablewright.Proofs.Blueprint
import Tablewright.Proofs.Entries
import Tablewright.Proofs.Script.Balance

namespace Tablewright

open Sql (Balanced)

/-! ### Checks -/

namespace Node

theorem balanced_conditions (n : Node) {column : String} (hcolumn : Balanced column) :
    ∀ s ∈ n.conditions column, Balanced s := by
  intro s hs
  unfold conditions at hs
  split at hs
  · simp only [Facets.numericConditions, List.mem_append, Option.mem_toList,
      Option.map_eq_some_iff] at hs
    rcases hs with ⟨limit, -, rfl⟩ | ⟨limit, -, rfl⟩
    · refine (hcolumn.append ?_).append limit.balanced_text
      split <;> decide
    · refine (hcolumn.append ?_).append limit.balanced_text
      split <;> decide
  · split at hs
    · have hlength : Balanced ("char_length(" ++ column) := Balanced.append (by decide) hcolumn
      simp only [Facets.textConditions, List.mem_append, Option.mem_toList,
        Option.map_eq_some_iff] at hs
      rcases hs with (⟨limit, -, rfl⟩ | ⟨limit, -, rfl⟩) | ⟨pattern, -, rfl⟩
      · exact (hlength.append (by decide)).append (balanced_toString limit)
      · exact (hlength.append (by decide)).append (balanced_toString limit)
      · exact ((Sql.balanced_quote pattern).append (by decide)).append hcolumn
    · exact absurd hs (by simp)

theorem balanced_check {n : Node} {column check : String} (hcolumn : Balanced column)
    (h : n.check? column = some check) : Balanced check := by
  unfold check? at h
  have hconditions := n.balanced_conditions hcolumn
  split at h
  · exact absurd h (by simp)
  · obtain rfl := Option.some.inj h
    exact Sql.balanced_join (by decide) hconditions

/-! ### Types -/

theorem balanced_numericName (format : Option String) : Balanced (numericName format) := by
  have hknown : ∀ entry ∈ numericFormats, Balanced entry.2 := by decide
  cases format with
  | none => exact (by decide : Balanced "integer")
  | some format =>
      show Balanced ((numericFormats.lookup format).getD "integer")
      cases hlookup : numericFormats.lookup format with
      | none => exact (by decide : Balanced "integer")
      | some type => exact hknown (format, type) (mem_of_lookup hlookup)

theorem balanced_textType {format : Option String} {maxLength : Option Nat} {type : String}
    (h : textType? format maxLength = some type) : Balanced type := by
  have hlimit : ∀ t : TextType, Balanced t.name → Balanced (t.text maxLength) := by
    intro t ht
    unfold TextType.text
    split
    · exact ((ht.append (by decide)).append (balanced_toString _)).append (by decide)
    · exact ht
  have hknown : ∀ entry ∈ textFormats, Balanced entry.2.name := by decide
  cases format with
  | none =>
      obtain rfl := Option.some.inj h
      exact hlimit _ (by decide)
  | some format =>
      obtain ⟨t, hlookup, rfl⟩ := Option.map_eq_some_iff.mp h
      exact hlimit t (hknown (format, t) (mem_of_lookup hlookup))

theorem balanced_scalarName (format : Option String) {traits : Traits}
    (htype : Balanced (traits.type.getD "")) : Balanced (scalarName format traits) := by
  simp only [scalarName]
  split
  · exact balanced_numericName format
  · split
    · cases htext : textType? format traits.facets.maxLength with
      | none => exact htype
      | some type => exact balanced_textType htext
    · exact htype

theorem balanced_marks (k : Nat) : Balanced (marks k) := by
  induction k with
  | zero => show Balanced ""; decide
  | succ k ih => exact ih.append (by decide)

end Node

/-! ### Columns of policies -/

/-- The texts that a policy hands over to be written as they stand are balanced. -/
structure Policy.Balanced (p : Policy) : Prop where
  tag : ∀ tag, p = .tagged tag → Sql.Balanced tag
  columns : ∀ c ∈ p.given, c.Balanced

namespace Column

theorem balanced_plain {name type : String} (hname : Sql.Balanced name)
    (htype : Sql.Balanced type) : (plain name type).Balanced :=
  ⟨hname, htype, fun _ h => absurd h (by simp [plain]), fun _ h => absurd h (by simp [plain])⟩

variable {c : Column}

theorem Balanced.asPrimaryKey (hc : c.Balanced) : c.asPrimaryKey.Balanced :=
  ⟨hc.name, hc.type, hc.default, hc.check⟩

theorem Balanced.withNullable (hc : c.Balanced) (nullable : Bool) :
    (c.withNullable nullable).Balanced :=
  ⟨hc.name, hc.type, hc.default, hc.check⟩

theorem Balanced.withDefault (hc : c.Balanced) {value : String} (hvalue : Sql.Balanced value) :
    (c.withDefault (.text value)).Balanced := by
  refine ⟨hc.name, hc.type, ?_, hc.check⟩
  intro s hs
  obtain rfl : value = s := by simpa [Column.withDefault] using hs
  exact hvalue

end Column

namespace Policy

variable {p : Policy}

theorem balanced_idColumns (hp : p.Balanced) : ∀ c ∈ p.idColumns, c.Balanced := by
  have hkey : ∀ type, Sql.Balanced type → (Column.plain "id" type).asPrimaryKey.Balanced :=
    fun type htype => (Column.balanced_plain (by decide) htype).asPrimaryKey
  cases p with
  | enabled => exact List.forall_mem_singleton.mpr (hkey "serial" (by decide))
  | tagged type => exact List.forall_mem_singleton.mpr (hkey type (hp.tag type rfl))
  | _ => exact hp.columns

theorem balanced_softDeleteColumns (hp : p.Balanced) : ∀ c ∈ p.softDeleteColumns, c.Balanced := by
  have hmark : ∀ name, Sql.Balanced name →
      ((Column.plain name "timestamp").withNullable true).Balanced :=
    fun name hname => (Column.balanced_plain hname (by decide)).withNullable true
  cases p with
  | enabled => exact List.forall_mem_singleton.mpr (hmark "delete_at" (by decide))
  | tagged name => exact List.forall_mem_singleton.mpr (hmark name (hp.tag name rfl))
  | _ => exact hp.columns

/-- A pair of columns of one type, with a default written as it stands. -/
theorem balanced_pair {names : List String} {type value : String} (nullable : Bool)
    (hnames : ∀ name ∈ names, Sql.Balanced name) (htype : Sql.Balanced type)
    (hvalue : Sql.Balanced value) :
    ∀ c ∈ names.map fun name =>
      ((Column.plain name type).withNullable nullable).withDefault (.text value), c.Balanced := by
  intro c hc
  obtain ⟨name, hname, rfl⟩ := List.mem_map.mp hc
  exact ((Column.balanced_plain (hnames name hname) htype).withNullable nullable).withDefault hvalue

theorem balanced_timestampPair : ∀ c ∈ timestampPair, c.Balanced :=
  balanced_pair false (by decide) (by decide) (by decide)

theorem balanced_operatorPair : ∀ c ∈ operatorPair, c.Balanced :=
  balanced_pair true (by decide) (by decide) (by decide)

theorem balanced_chosen {pair : List Column} (hpair : ∀ c ∈ pair, c.Balanced) (hp : p.Balanced) :
    ∀ c ∈ p.chosen pair, c.Balanced := by
  cases p with
  | enabled => exact hpair
  | tagged name =>
      show ∀ c ∈ ((pair.find? (·.name == name)).map fun named => [named]).getD pair, c.Balanced
      cases hfind : pair.find? (·.name == name) with
      | none => exact hpair
      | some named =>
          exact List.forall_mem_singleton.mpr (hpair named (List.mem_of_find?_eq_some hfind))
  | _ => exact hp.columns

end Policy

/-! ### Models and settings -/

/-- The texts of settings are balanced. -/
structure Settings.Balanced (settings : Settings) : Prop where
  schema : Sql.Balanced settings.schema
  id : settings.id.Balanced
  timestamp : settings.timestamp.Balanced
  operator : settings.operator.Balanced
  softDelete : settings.softDelete.Balanced

/-- The texts of the overrides of an entity are balanced. -/
structure Overrides.Balanced (overrides : Overrides) : Prop where
  id : ∀ p, overrides.id = some p → p.Balanced
  timestamp : ∀ p, overrides.timestamp = some p → p.Balanced
  operator : ∀ p, overrides.operator = some p → p.Balanced
  softDelete : ∀ p, overrides.softDelete = some p → p.Balanced
  dataType : ∀ s, overrides.dataType = some s → Sql.Balanced s
  check : ∀ s, overrides.check = some s → Sql.Balanced s

/-- The declared type of a property and its default, where that is a text, are balanced. -/
structure Node.Balanced (property : Node) : Prop where
  type : ∀ s, property.leaf.traits.type = some s → Sql.Balanced s
  default : ∀ s, property.traits.default = some (.text s) → Sql.Balanced s

/-- The names of a model are balanced, and what its entities and properties say beside
descriptions, members and patterns. -/
structure Model.Balanced (m : Model) : Prop where
  entities : ∀ entity ∈ m.entities, Sql.Balanced entity.1
  overrides : ∀ entity ∈ m.entities, entity.2.overrides.Balanced
  names : ∀ entity ∈ m.entities, ∀ property ∈ entity.2.properties, Sql.Balanced property.1
  properties : ∀ entity ∈ m.entities, ∀ property ∈ entity.2.properties, property.2.Balanced

theorem balanced_getD {override : Option Policy} {setting : Policy}
    (hoverride : ∀ p, override = some p → p.Balanced) (hsetting : setting.Balanced) :
    (override.getD setting).Balanced := by
  cases override with
  | none => exact hsetting
  | some p => exact hoverride p rfl

namespace Blueprint

variable {settings : Settings} {overrides : Overrides} {address : TableAddress}
  {property : String × Node}

theorem balanced_columnType (haddress : Sql.Balanced address.name)
    (hname : Sql.Balanced property.1) (hproperty : property.2.Balanced) :
    Sql.Balanced (property.2.columnType (address.column property.1)) := by
  have htype : Sql.Balanced (property.2.leaf.traits.type.getD "") := by
    cases htype : property.2.leaf.traits.type with
    | none => exact (by decide : Sql.Balanced "")
    | some type => exact hproperty.type type htype
  refine Sql.Balanced.append ?_ (Node.balanced_marks _)
  cases hleaf : property.2.leaf with
  | reference _ _ => exact (by decide : Sql.Balanced "serial")
  | enumeration _ _ => exact (haddress.append (by decide)).append hname
  | scalar format traits =>
      rw [hleaf] at htype
      exact Node.balanced_scalarName format htype
  | object _ _ traits =>
      rw [hleaf] at htype
      exact htype
  | list _ _ => exact (by decide : Sql.Balanced "")
  | bareList _ => exact (by decide : Sql.Balanced "")

theorem balanced_declaredColumn (haddress : Sql.Balanced address.name)
    (hoverrides : overrides.Balanced) (hname : Sql.Balanced property.1)
    (hproperty : property.2.Balanced) :
    (declaredColumn settings overrides address property).Balanced where
  name := hname
  type := by
    show Sql.Balanced (overrides.dataType.getD _)
    cases htype : overrides.dataType with
    | none => exact balanced_columnType haddress hname hproperty
    | some type => exact hoverrides.dataType type htype
  default := hproperty.default
  check := by
    intro check hcheck
    rcases Option.or_eq_some_iff.mp hcheck with hcheck | ⟨-, hcheck⟩
    · exact hoverrides.check check hcheck
    · split at hcheck
      · obtain ⟨conditions, hconditions, rfl⟩ := Option.map_eq_some_iff.mp hcheck
        exact (Sql.Balanced.append (by decide) (Node.balanced_check hname hconditions)).append
          (by decide)
      · exact absurd hcheck (by simp)

theorem balanced_entityColumns {entity : String × Node} (hsettings : settings.Balanced)
    (haddress : Sql.Balanced (TableAddress.mk settings.schema entity.1).name)
    (hoverrides : entity.2.overrides.Balanced)
    (hproperties : ∀ property ∈ entity.2.properties,
      Sql.Balanced property.1 ∧ property.2.Balanced) :
    ∀ c ∈ entityColumns settings entity, c.Balanced := by
  intro c hc
  simp only [entityColumns, List.mem_append] at hc
  rcases hc with (((hc | hc) | hc) | hc) | hc
  · exact Policy.balanced_idColumns (balanced_getD hoverrides.id hsettings.id) c hc
  · obtain ⟨property, hproperty, rfl⟩ := List.mem_map.mp hc
    obtain ⟨hname, hproperty⟩ := hproperties property hproperty
    exact balanced_declaredColumn haddress hoverrides hname hproperty
  · exact Policy.balanced_chosen Policy.balanced_timestampPair
      (balanced_getD hoverrides.timestamp hsettings.timestamp) c hc
  · exact Policy.balanced_chosen Policy.balanced_operatorPair
      (balanced_getD hoverrides.operator hsettings.operator) c hc
  · exact Policy.balanced_softDeleteColumns
      (balanced_getD hoverrides.softDelete hsettings.softDelete) c hc

end Blueprint

/-- **The blueprint of a balanced model is balanced.** -/
theorem Model.Balanced.outline {m : Model} {settings : Settings} (hm : m.Balanced)
    (hsettings : settings.Balanced) : (m.outline settings).Balanced := by
  have haddress : ∀ entity ∈ m.entities,
      Sql.Balanced (TableAddress.mk settings.schema entity.1).name := by
    intro entity hentity
    exact (hsettings.schema.append (by decide)).append (hm.entities entity hentity)
  refine ⟨?_, ?_, ?_, ?_⟩
  · intro t ht
    obtain ⟨entity, hentity, ht⟩ := List.mem_flatMap.mp ht
    obtain ⟨property, hproperty, ht⟩ := List.mem_flatMap.mp ht
    obtain ⟨members, -, rfl⟩ := Option.map_eq_some_iff.mp (Option.mem_toList.mp ht)
    exact ((haddress entity hentity).append (by decide)).append
      (hm.names entity hentity property hproperty)
  · intro t ht
    obtain ⟨entity, hentity, rfl⟩ := List.mem_map.mp ht
    exact haddress entity hentity
  · intro t ht
    obtain ⟨entity, hentity, rfl⟩ := List.mem_map.mp ht
    have hproperties : ∀ property ∈ entity.2.properties,
        Sql.Balanced property.1 ∧ property.2.Balanced :=
      fun property hproperty => ⟨hm.names entity hentity property hproperty,
        hm.properties entity hentity property hproperty⟩
    exact Blueprint.balanced_entityColumns hsettings (haddress entity hentity)
      (hm.overrides entity hentity) hproperties
  · intro c hc
    obtain ⟨entity, hentity, hc⟩ := List.mem_flatMap.mp hc
    simp only [Blueprint.entityComments, List.mem_append, List.mem_flatMap] at hc
    rcases hc with hc | ⟨property, hproperty, hc⟩
    · obtain ⟨content, -, rfl⟩ := Option.map_eq_some_iff.mp (Option.mem_toList.mp hc)
      exact haddress entity hentity
    · obtain ⟨content, -, rfl⟩ := Option.map_eq_some_iff.mp (Option.mem_toList.mp hc)
      exact ((haddress entity hentity).append (by decide)).append
        (hm.names entity hentity property hproperty)

end Tablewright
