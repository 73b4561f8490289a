/-
When a model compiles, and what is reported where it does not.

Compiling has three stages that each go over the whole model: entities must be
objects, declared columns must have types, and columns must have names and types
when they are written.  A stage is entered only when the one before it finds no
offence anywhere, so an offence of an early stage is reported before one of a
late stage wherever the two are; within a stage the first offence in the order of
the document is.

The stages are described by what an offence is, `Misshapen`, `Mistyped` and
`Lacks`, and by `First`, the first one in a list.  That the drawing of a blueprint
asks each entity for its shape and its types at once makes no difference, because
it comes after the shapes of all entities were asked for.
-/
import Tablewright.Migration
import Tablewright.Proofs.Blueprint
import Tablewright.Proofs.Script
import Tablewright.Proofs.Verdicts

namespace Tablewright

variable {α : Type}

/-! ### Offences -/

/-- The first element of a list with an offence, and what is reported of it. -/
def First (offence : α → Failure → Prop) (l : List α) (failure : Failure) : Prop :=
  ∃ before a after, l = before ++ a :: after ∧
    (∀ other ∈ before, ∀ reported, ¬ offence other reported) ∧ offence a failure

theorem First.offence {offence : α → Failure → Prop} {l : List α} {failure : Failure}
    (h : First offence l failure) : ∃ a, offence a failure := by
  obtain ⟨_, a, _, _, _, ha⟩ := h
  exact ⟨a, ha⟩

theorem first_cons_iff {offence : α → Failure → Prop} {a : α} {rest : List α} {failure : Failure} :
    First offence (a :: rest) failure ↔
      offence a failure ∨ (∀ reported, ¬ offence a reported) ∧ First offence rest failure := by
  constructor
  · rintro ⟨before, b, after, hsplit, hbefore, hb⟩
    rcases List.cons_eq_append_iff.mp hsplit with ⟨rfl, hrest⟩ | ⟨others, rfl, rfl⟩
    · obtain ⟨rfl, -⟩ := List.cons.inj hrest
      exact .inl hb
    · rw [List.forall_mem_cons] at hbefore
      exact .inr ⟨hbefore.1, others, b, after, rfl, hbefore.2, hb⟩
  · rintro (ha | ⟨hnone, before, b, after, rfl, hbefore, hb⟩)
    · exact ⟨[], a, rest, rfl, by simp, ha⟩
    · exact ⟨a :: before, b, after, rfl, List.forall_mem_cons.mpr ⟨hnone, hbefore⟩, hb⟩

/-- Where the offences of two lists are the same one by one, so is the first one. -/
theorem first_iff_of_forall₂ {β : Type} {offence : α → Failure → Prop} {other : β → Failure → Prop}
    {l : List α} {others : List β} {failure : Failure}
    (h : List.Forall₂ (fun a b => ∀ reported, offence a reported ↔ other b reported) l others) :
    First offence l failure ↔ First other others failure := by
  induction h with
  | nil => simp [First]
  | cons hfirst _ ih =>
      rw [first_cons_iff, first_cons_iff, ih]
      simp only [hfirst]

/-- The search for a failure finds the first offence. -/
theorem findSome?_eq_some_iff_first {failure? : α → Option Failure} {offence : α → Failure → Prop}
    (h : ∀ a failure, failure? a = some failure ↔ offence a failure) (l : List α)
    (failure : Failure) : l.findSome? failure? = some failure ↔ First offence l failure := by
  rw [List.findSome?_eq_some_iff]
  constructor
  · rintro ⟨before, a, after, hl, ha, hbefore⟩
    refine ⟨before, a, after, hl, ?_, (h a failure).mp ha⟩
    intro other hother reported hoffence
    have hsome := (h other reported).mpr hoffence
    rw [hbefore other hother] at hsome
    exact absurd hsome (by simp)
  · rintro ⟨before, a, after, hl, hbefore, ha⟩
    refine ⟨before, a, after, hl, (h a failure).mpr ha, ?_⟩
    intro other hother
    rw [Option.eq_none_iff_forall_ne_some]
    exact fun reported hsome => hbefore other hother reported ((h other reported).mp hsome)

/-- The entity is not an object. -/
inductive Misshapen : String × Node → Failure → Prop
  | intro {name : String} {node : Node} (h : node.isObject = false) :
      Misshapen (name, node) (.notAnObject name node.shape)

/-- The property has no SQL type: its innermost items are a list that describes none, or an
enumeration of a type that no members can have. -/
inductive Node.Untyped (address : ColumnAddress) : Node → Failure → Prop
  | bareList (traits : Traits) : Untyped address (.bareList traits) (.missingItems address.name)
  | enumeration (members : List Literal) {traits : Traits} (h : ¬ Admits traits) :
      Untyped address (.enumeration members traits) (.enumBase address.name
        (if traits.type.getD "" = "" then "none" else traits.type.getD ""))
  | list {items : Node} (traits : Traits) {failure : Failure} (h : Untyped address items failure) :
      Untyped address (.list items traits) failure

/-- A declared column of the entity has no type, and no other type is settled for it. -/
def Mistyped (settings : Settings) (entity : String × Node) (failure : Failure) : Prop :=
  entity.2.overrides.dataType = none ∧
    First (fun property => property.2.Untyped ⟨settings.schema, entity.1, property.1⟩)
      entity.2.properties failure

/-- The column cannot be written: it lacks its name or, having one, its type. -/
inductive Column.Lacks (c : Column) : Failure → Prop
  | name (h : c.name = "") : Lacks c (.missingColumnPart .name none)
  | type (hname : c.name ≠ "") (h : c.type = "") :
      Lacks c (.missingColumnPart .type (some c.name))

/-! ### What passes a stage -/

/-- The innermost items of the property have a type: they are no list that describes none, and no
enumeration of a type that no members can have. -/
def Node.Typed (n : Node) : Prop :=
  (∀ traits, n.leaf ≠ .bareList traits) ∧
    ∀ members traits, n.leaf = .enumeration members traits → Admits traits

/-- Every column has a name and a type. -/
def Blueprint.Complete (b : Blueprint) : Prop :=
  ∀ table ∈ b.tables, ∀ column ∈ table.columns, column.name ≠ "" ∧ column.type ≠ ""

namespace Model

/-- Every entity is an object. -/
def Shaped (m : Model) : Prop :=
  ∀ entity ∈ m.entities, entity.2.isObject = true

/-- Every declared column has a type, as far as no other type is settled for it. -/
def Typed (m : Model) : Prop :=
  ∀ entity ∈ m.entities, entity.2.overrides.dataType = none →
    ∀ property ∈ entity.2.properties, property.2.Typed

/-- The model draws this blueprint. -/
def Draws (m : Model) (settings : Settings) (b : Blueprint) : Prop :=
  ∃ log rest, (m.blueprint settings).from log = (.ok b, rest)

end Model

/-! ### The failures of a stage are its offences -/

theorem Blueprint.shapeFailure?_eq_some_iff (entity : String × Node) (failure : Failure) :
    shapeFailure? entity = some failure ↔ Misshapen entity failure := by
  obtain ⟨name, node⟩ := entity
  unfold shapeFailure?
  constructor
  · intro h
    split at h
    · exact absurd h (by simp)
    · rename_i hshape
      obtain rfl := Option.some.inj h
      exact .intro (by simpa using hshape)
  · rintro ⟨hshape⟩
    rw [if_neg (by simp [hshape])]

theorem Node.typeFailure?_eq_some_iff (address : ColumnAddress) (n : Node) (failure : Failure) :
    n.typeFailure? address = some failure ↔ n.Untyped address failure := by
  constructor
  · intro h
    induction n using leaf.induct with
    | case1 items traits ih => exact .list traits (ih h)
    | case2 n hlist =>
        cases n with
        | list items traits => exact absurd rfl (hlist items traits)
        | bareList traits =>
            obtain rfl := Option.some.inj h
            exact .bareList traits
        | enumeration members traits =>
            have hbase : (if Admits traits then none else some _) = some failure := h
            split at hbase
            · exact absurd hbase (by simp)
            · rename_i hadmits
              obtain rfl := Option.some.inj hbase
              exact .enumeration members hadmits
        | _ => exact absurd h (by simp [typeFailure?, leaf, leafFailure?])
  · intro h
    induction h with
    | bareList traits => rfl
    | enumeration members h => exact if_neg h
    | list traits _ ih => exact ih

theorem Blueprint.columnFailure?_eq_some_iff {overrides : Overrides} (address : TableAddress)
    (htype : overrides.dataType = none) (property : String × Node) (failure : Failure) :
    columnFailure? overrides address property = some failure
      ↔ property.2.Untyped (address.column property.1) failure := by
  rw [columnFailure?, htype]
  exact Node.typeFailure?_eq_some_iff _ _ failure

theorem Blueprint.typeFailure?_eq_some_iff (settings : Settings) (entity : String × Node)
    (failure : Failure) :
    typeFailure? settings entity = some failure ↔ Mistyped settings entity failure := by
  unfold typeFailure? Mistyped
  cases htype : entity.2.overrides.dataType with
  | none =>
      rw [findSome?_eq_some_iff_first (columnFailure?_eq_some_iff _ htype)]
      simp [TableAddress.column]
  | some type =>
      have hnone : entity.2.properties.findSome?
          (columnFailure? entity.2.overrides ⟨settings.schema, entity.1⟩) = none := by
        rw [List.findSome?_eq_none_iff]
        intro property _
        rw [columnFailure?, htype]
        rfl
      rw [hnone]
      simp

theorem Script.partFailure?_eq_some_iff (c : Column) (failure : Failure) :
    partFailure? c = some failure ↔ c.Lacks failure := by
  unfold partFailure?
  by_cases hname : c.name = ""
  · rw [if_pos hname]
    constructor
    · intro h
      obtain rfl := Option.some.inj h
      exact .name hname
    · rintro (h | ⟨hname', -⟩)
      · rfl
      · exact absurd hname hname'
  · have hkept : (some c.name).filter (· != "") = some c.name := by simp [hname]
    rw [if_neg hname, Failure.ofMissingPart, hkept]
    by_cases htype : c.type = ""
    · rw [if_pos htype]
      constructor
      · intro h
        obtain rfl := Option.some.inj h
        exact .type hname htype
      · rintro (h | _)
        · exact absurd h hname
        · rfl
    · rw [if_neg htype]
      constructor
      · exact fun h => absurd h (by simp)
      · rintro (h | ⟨-, h⟩)
        · exact absurd h hname
        · exact absurd h htype

theorem Script.tableFailure?_eq_some_iff (t : Table) (failure : Failure) :
    tableFailure? t = some failure ↔ First Column.Lacks t.columns failure :=
  findSome?_eq_some_iff_first partFailure?_eq_some_iff t.columns failure

theorem Script.tableFailure?_eq_none_iff {t : Table} :
    tableFailure? t = none ↔ ∀ column ∈ t.columns, column.name ≠ "" ∧ column.type ≠ "" := by
  have hcolumn : ∀ c : Column, partFailure? c = none ↔ c.name ≠ "" ∧ c.type ≠ "" := by
    intro c
    unfold partFailure?
    split
    · simp [*]
    · split <;> simp [*]
  unfold tableFailure?
  simp only [List.findSome?_eq_none_iff, hcolumn]

/-- Where every entity is an object, only types can stop the drawing. -/
theorem Blueprint.entitiesFailure?_of_shaped {entities : List (String × Node)}
    (shaped : ∀ entity ∈ entities, entity.2.isObject = true) (settings : Settings) :
    entitiesFailure? settings entities = entities.findSome? (typeFailure? settings) := by
  unfold entitiesFailure?
  induction entities with
  | nil => rfl
  | cons entity rest ih =>
      have hfirst : entityFailure? settings entity = typeFailure? settings entity := by
        rw [entityFailure?, shapeFailure?, if_pos (shaped entity (by simp)), Option.none_or]
      rw [List.findSome?_cons, List.findSome?_cons, hfirst,
        ih (fun other hother => shaped other (by simp [hother]))]

/-! ### The stages one after the other -/

namespace Model

/-- Validation reports the first entity that is not an object. -/
theorem validate_eq (m : Model) :
    m.validate = barring (m.entities.findSome? Blueprint.shapeFailure?) () := by
  have hfailure : ∀ entity : String × Node,
      (Validation.entityObjection? entity.1 entity.2).map Validation.Objection.failure
        = Blueprint.shapeFailure? entity := by
    intro entity
    unfold Validation.entityObjection? Blueprint.shapeFailure?
    split
    · rfl
    · rfl
  have hobjections : (Validation.validate Validation.fatal m).objections
      = m.entities.filterMap fun entity => Validation.entityObjection? entity.1 entity.2 := by
    rw [Validation.validate_eq]
    simp [Validation.fatal, Validation.entityType]
  rw [validate, Validation.Verdict.toResult_eq, hobjections, List.head?_filterMap, List.map_findSome?]
  congr 2
  exact funext hfailure

/-- What stops the compiling of a model. -/
def compileFailure? (m : Model) (settings : Settings) : Option Failure :=
  (m.entities.findSome? Blueprint.shapeFailure?).or
    ((m.blueprintFailure? settings).or (Script.blueprintFailure? (m.outline settings)))

/-- The compiled model, as a plain function of it. -/
def migration (m : Model) (settings : Settings) : Migration where
  blueprint := m.outline settings
  sql := Script.text settings.schema (m.outline settings)
  warnings :=
    (Validation.validate Validation.lints m).remarks.map Validation.Remark.warning
      ++ (m.blueprintWarnings settings
        ++ Log.past (m.blueprintFailure? settings) (Script.blueprintWarnings (m.outline settings)))

theorem script_gives (m : Model) (settings : Settings) :
    Checked.Gives (m.script settings)
      ((m.blueprintFailure? settings).or (Script.blueprintFailure? (m.outline settings)))
      (m.outline settings, Script.text settings.schema (m.outline settings))
      (m.migration settings).warnings := by
  have hremarks : Checked.Gives (modifyThe Log
      (· ++ (Validation.validate Validation.lints m).remarks.map Validation.Remark.warning)) none ()
      ((Validation.validate Validation.lints m).remarks.map Validation.Remark.warning) :=
    fun _ => rfl
  have hsql (b : Blueprint) := Checked.gives_map (Script.ofBlueprint_gives settings.schema b)
    fun sql => (b, sql)
  exact Checked.gives_bind_of_none hremarks (Checked.gives_bind (m.blueprint_gives settings)
    (hsql (m.outline settings)))

/-- **What compiling a model comes to.** -/
theorem compile_eq (m : Model) (settings : Settings) :
    m.compile settings = barring (m.compileFailure? settings) (m.migration settings) := by
  unfold compile
  rw [validate_eq]
  refine bind_barring ?_
  rw [m.script_gives settings [], List.nil_append]
  cases (m.blueprintFailure? settings).or (Script.blueprintFailure? (m.outline settings)) with
  | none => rfl
  | some failure => rfl

/-- A model that no stage stops comes to its migration. -/
theorem compile_of_none {m : Model} {settings : Settings} (h : m.compileFailure? settings = none) :
    m.compile settings = .ok (m.migration settings) := by
  rw [compile_eq, h, barring_none]

/-- A model that compiles is stopped by no stage, and comes to its migration. -/
theorem of_compiled {m : Model} {settings : Settings} {migration : Migration}
    (compiled : m.compile settings = .ok migration) :
    m.blueprintFailure? settings = none ∧
      Script.blueprintFailure? (m.outline settings) = none ∧ m.migration settings = migration := by
  rw [m.compile_eq settings, barring_eq_ok_iff, compileFailure?, Option.or_eq_none_iff,
    Option.or_eq_none_iff] at compiled
  obtain ⟨⟨-, hblueprint, hscript⟩, hmigration⟩ := compiled
  exact ⟨hblueprint, hscript, hmigration⟩

/-! ### Stages that find nothing -/

theorem shapeFailure?_eq_none_iff {m : Model} :
    m.entities.findSome? Blueprint.shapeFailure? = none ↔ m.Shaped := by
  rw [List.findSome?_eq_none_iff]
  unfold Blueprint.shapeFailure? Shaped
  simp

theorem typeFailure?_eq_none_iff {m : Model} (settings : Settings) :
    m.entities.findSome? (Blueprint.typeFailure? settings) = none ↔ m.Typed := by
  have hleaf : ∀ (n : Node) (address : ColumnAddress), n.typeFailure? address = none ↔ n.Typed := by
    intro n address
    unfold Node.typeFailure? Node.Typed
    cases n.leaf with
    | enumeration members traits => simp [Node.leafFailure?]
    | _ => simp [Node.leafFailure?]
  have hentity : ∀ entity : String × Node, Blueprint.typeFailure? settings entity = none ↔
      (entity.2.overrides.dataType = none →
        ∀ property ∈ entity.2.properties, property.2.Typed) := by
    intro entity
    unfold Blueprint.typeFailure? Blueprint.columnFailure?
    rw [List.findSome?_eq_none_iff]
    cases entity.2.overrides.dataType with
    | none => simp [hleaf]
    | some type => simp
  rw [List.findSome?_eq_none_iff]
  exact forall₂_congr fun entity _ => hentity entity

theorem partFailure?_eq_none_iff {b : Blueprint} :
    Script.blueprintFailure? b = none ↔ b.Complete := by
  unfold Script.blueprintFailure? Blueprint.Complete
  simp only [List.findSome?_eq_none_iff, Script.tableFailure?_eq_none_iff]

theorem blueprintFailure?_eq_none_iff {m : Model} {settings : Settings} :
    m.blueprintFailure? settings = none ↔ m.Shaped ∧ m.Typed := by
  unfold blueprintFailure? Blueprint.entitiesFailure? Blueprint.entityFailure?
  rw [← shapeFailure?_eq_none_iff, ← typeFailure?_eq_none_iff settings]
  simp only [List.findSome?_eq_none_iff, Option.or_eq_none_iff]
  exact ⟨fun h => ⟨fun e he => (h e he).1, fun e he => (h e he).2⟩,
    fun h e he => ⟨h.1 e he, h.2 e he⟩⟩

theorem blueprintFailure?_of_shaped {m : Model} (shaped : m.Shaped) (settings : Settings) :
    m.blueprintFailure? settings = m.entities.findSome? (Blueprint.typeFailure? settings) :=
  Blueprint.entitiesFailure?_of_shaped shaped settings

theorem draws_iff {m : Model} {settings : Settings} {b : Blueprint} :
    m.Draws settings b ↔ (m.Shaped ∧ m.Typed) ∧ m.outline settings = b := by
  rw [← blueprintFailure?_eq_none_iff]
  constructor
  · rintro ⟨log, rest, hrun⟩
    exact (m.blueprint_gives settings).eq_of_from hrun
  · rintro ⟨hfailure, houtline⟩
    have hrun := m.blueprint_gives settings []
    rw [hfailure, houtline] at hrun
    exact ⟨[], _, hrun⟩

theorem compileFailure?_eq_none_iff {m : Model} {settings : Settings} :
    m.compileFailure? settings = none ↔
      m.Shaped ∧ m.Typed ∧ ∀ b, m.Draws settings b → b.Complete := by
  unfold compileFailure?
  rw [Option.or_eq_none_iff, Option.or_eq_none_iff, shapeFailure?_eq_none_iff,
    blueprintFailure?_eq_none_iff, partFailure?_eq_none_iff]
  simp only [draws_iff]
  constructor
  · rintro ⟨shaped, ⟨-, typed⟩, complete⟩
    refine ⟨shaped, typed, ?_⟩
    rintro b ⟨-, rfl⟩
    exact complete
  · rintro ⟨shaped, typed, complete⟩
    exact ⟨shaped, ⟨shaped, typed⟩, complete _ ⟨⟨shaped, typed⟩, rfl⟩⟩

theorem compileFailure?_eq_some_iff {m : Model} {settings : Settings} {failure : Failure} :
    m.compileFailure? settings = some failure ↔
      First Misshapen m.entities failure ∨
      m.Shaped ∧ First (Mistyped settings) m.entities failure ∨
      ∃ b, m.Draws settings b ∧
        First (fun table => First Column.Lacks table.columns) b.tables failure := by
  have hshape := findSome?_eq_some_iff_first Blueprint.shapeFailure?_eq_some_iff m.entities failure
  have htype := findSome?_eq_some_iff_first (Blueprint.typeFailure?_eq_some_iff settings)
    m.entities failure
  have hpart := findSome?_eq_some_iff_first Script.tableFailure?_eq_some_iff
    (m.outline settings).tables failure
  unfold compileFailure?
  rw [Option.or_eq_some_iff, Option.or_eq_some_iff, shapeFailure?_eq_none_iff,
    blueprintFailure?_eq_none_iff, hshape]
  constructor
  · rintro (h | ⟨shaped, h | ⟨⟨-, typed⟩, h⟩⟩)
    · exact Or.inl h
    · rw [blueprintFailure?_of_shaped shaped] at h
      exact Or.inr (Or.inl ⟨shaped, htype.mp h⟩)
    · exact Or.inr (Or.inr ⟨_, draws_iff.mpr ⟨⟨shaped, typed⟩, rfl⟩, hpart.mp h⟩)
  · rintro (h | ⟨shaped, h⟩ | ⟨b, hdraws, h⟩)
    · exact Or.inl h
    · refine Or.inr ⟨shaped, Or.inl ?_⟩
      rw [blueprintFailure?_of_shaped shaped]
      exact htype.mpr h
    · obtain ⟨⟨shaped, typed⟩, rfl⟩ := draws_iff.mp hdraws
      exact Or.inr ⟨shaped, Or.inr ⟨⟨shaped, typed⟩, hpart.mpr h⟩⟩

/-- Where shapes and types are in order, a column that lacks its name or its type is what compiling
reports. -/
theorem exists_missingPart {m : Model} {settings : Settings} (shaped : m.Shaped) (typed : m.Typed)
    (h : ¬ (m.outline settings).Complete) :
    ∃ part column, m.compile settings = .error (.missingColumnPart part column) := by
  have hdrawn : m.blueprintFailure? settings = none :=
    blueprintFailure?_eq_none_iff.mpr ⟨shaped, typed⟩
  obtain ⟨failure, hfailure⟩ := Option.ne_none_iff_exists'.mp (mt partFailure?_eq_none_iff.mp h)
  have hcompile : m.compileFailure? settings = some failure := by
    rw [compileFailure?, shapeFailure?_eq_none_iff.mpr shaped, Option.none_or, hdrawn,
      Option.none_or, hfailure]
  have hlacks := findSome?_eq_some_iff_first Script.tableFailure?_eq_some_iff
    (m.outline settings).tables failure
  obtain ⟨table, htable⟩ := (hlacks.mp hfailure).offence
  obtain ⟨column, hcolumn⟩ := htable.offence
  rw [compile_eq, hcompile]
  cases hcolumn with
  | name _ => exact ⟨_, _, rfl⟩
  | type _ _ => exact ⟨_, _, rfl⟩

end Model

/--
**A model compiles exactly when all stages pass it; otherwise the earliest one reports its first
offence.**
-/
theorem compile_outcome (m : Model) (settings : Settings) :
    ((∃ migration, m.compile settings = .ok migration) ↔
      m.Shaped ∧ m.Typed ∧ ∀ b, m.Draws settings b → b.Complete) ∧
    ((∃ b, m.Draws settings b) ↔ m.Shaped ∧ m.Typed) ∧
    ∀ failure, m.compile settings = .error failure ↔
      First Misshapen m.entities failure ∨
      m.Shaped ∧ First (Mistyped settings) m.entities failure ∨
      ∃ b, m.Draws settings b ∧
        First (fun table => First Column.Lacks table.columns) b.tables failure := by
  rw [m.compile_eq settings]
  refine ⟨?_, ?_, ?_⟩
  · rw [← Model.compileFailure?_eq_none_iff]
    simp [barring_eq_ok_iff]
  · simp [Model.draws_iff]
  · intro failure
    rw [barring_eq_error_iff, Model.compileFailure?_eq_some_iff]

end Tablewright
