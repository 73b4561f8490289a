/-
Columns without a type, and what becomes of them.

A property that declares no type has an empty one, and writing a column of an empty
type fails.  The type is looked at only when it is finished, though, and by then every
list around the property has put its mark behind it.  So a scalar without a type is
caught where it is the property itself, and inside lists it is not: nothing but marks
is left as the type of its column.

`HollowIn` lists all the ways in which a table comes to such a column.  The others are
asked for: a type that is written as marks, as the one declared, as the one an entity
settles, as a tag for the key, or in a column that the user gave.
-/
import Tablewright.Proofs.Compile
import Tablewright.Proofs.Node.Applicability
import Tablewright.Proofs.Tables
import Tablewright.Proofs.TypeReferences

namespace Tablewright

/-! ### Types that are only marks -/

/-- Nothing is left of the type without the marks of lists at its end. -/
def OnlyMarks (type : String) : Prop :=
  unmarked type = ""

instance (type : String) : Decidable (OnlyMarks type) :=
  inferInstanceAs (Decidable (unmarked type = ""))

theorem onlyMarks_append_marks_iff {type : String} {k : Nat} :
    OnlyMarks (type ++ Node.marks k) ↔ OnlyMarks type := by
  rw [OnlyMarks, unmarked_append_marks, OnlyMarks]

/-- Only brackets are dropped. -/
theorem mem_dropMarks {c : Char} {type : List Char} (hc : c ∈ type) (hopen : c ≠ '[')
    (hclose : c ≠ ']') : c ∈ dropMarks type := by
  induction type using dropMarks.induct with
  | case1 rest ih =>
      rw [dropMarks]
      exact ih (by simpa [hopen, hclose] using hc)
  | case2 type hmarks =>
      rw [dropMarks]
      · exact hc
      · exact hmarks

theorem not_onlyMarks_of_mem {c : Char} {type : String} (hc : c ∈ type.toList) (hopen : c ≠ '[')
    (hclose : c ≠ ']') : ¬ OnlyMarks type := by
  intro h
  have hmem : c ∈ (unmarked type).toList := by
    rw [unmarked, String.toList_ofList, List.mem_reverse]
    exact mem_dropMarks (List.mem_reverse.mpr hc) hopen hclose
  rw [h] at hmem
  exact absurd hmem (by simp)

namespace Node

/-- The declared type of a scalar or an object is nothing but marks, or a list holds such items. -/
inductive Hollow : Node → Prop
  | scalar (format : Option String) {traits : Traits} (h : OnlyMarks (traits.type.getD "")) :
      Hollow (.scalar format traits)
  | object (properties : List (String × Node)) (overrides : Overrides) {traits : Traits}
      (h : OnlyMarks (traits.type.getD "")) : Hollow (.object properties overrides traits)
  | list {items : Node} (traits : Traits) (h : items.Hollow) : Hollow (.list items traits)

/-- A scalar without a declared type, inside this many lists. -/
inductive Bare : Nat → Node → Prop
  | scalar (format : Option String) {traits : Traits} (h : traits.type.getD "" = "") :
      Bare 0 (.scalar format traits)
  | list {k : Nat} {items : Node} (traits : Traits) (h : Bare k items) :
      Bare (k + 1) (.list items traits)

theorem hollow_scalar_iff {format : Option String} {traits : Traits} :
    (scalar format traits).Hollow ↔ OnlyMarks (traits.type.getD "") := by
  constructor
  · rintro ⟨⟩
    assumption
  · exact .scalar format

theorem hollow_object_iff {properties : List (String × Node)} {overrides : Overrides}
    {traits : Traits} :
    (object properties overrides traits).Hollow ↔ OnlyMarks (traits.type.getD "") := by
  constructor
  · rintro ⟨⟩
    assumption
  · exact .object properties overrides

theorem hollow_leaf_iff {n : Node} : n.leaf.Hollow ↔ n.Hollow := by
  induction n using leaf.induct with
  | case1 items traits ih =>
      rw [leaf, ih]
      constructor
      · exact .list traits
      · rintro ⟨⟩
        assumption
  | case2 n hlist =>
      cases n with
      | list items traits => exact absurd rfl (hlist items traits)
      | _ => rfl

theorem Bare.columnType_eq {n : Node} {k : Nat} (h : n.Bare k) (address : ColumnAddress) :
    n.columnType address = marks k := by
  induction h with
  | scalar format h => simp [scalarName, h, marks]
  | list traits _ ih => rw [columnType_list, ih, marks]

end Node

/-! ### The types of the table -/

theorem IsNumberType.not_onlyMarks {format : Option String} {type : String}
    (h : IsNumberType format type) : ¬ OnlyMarks type := by
  have hall : ∀ type ∈ numericTypes, ¬ OnlyMarks type := by decide
  exact hall type h.mem_numericTypes

theorem IsTextType.not_onlyMarks {format : Option String} {length : Option Nat} {type : String}
    (h : IsTextType format length type) : ¬ OnlyMarks type := by
  have hsized : ∀ type ∈ ["character varying", "character"], ¬ OnlyMarks (sized type length) := by
    intro type htype
    have hletter : 'c' ∈ type.toList := by
      revert type
      decide
    exact not_onlyMarks_of_mem ((prefix_sized type length).mem hletter) (by decide) (by decide)
  cases h with
  | unset => exact hsized _ (by simp)
  | character => exact hsized _ (by simp)
  | varying => exact hsized _ (by simp)
  | _ => decide

namespace Node

variable {address : ColumnAddress} {n : Node}

/-- Of the types in the table only a declared one can be nothing but marks. -/
theorem Resolves.onlyMarks_iff {base : String} (h : n.Resolves address base) :
    OnlyMarks base ↔ n.Hollow := by
  cases h with
  | reference => exact iff_of_false (by decide) (by rintro ⟨⟩)
  | enumeration =>
      exact iff_of_false (not_onlyMarks_of_mem (c := '.') (by simp) (by decide) (by decide))
        (by rintro ⟨⟩)
  | number declared h =>
      refine iff_of_false h.not_onlyMarks ?_
      rw [hollow_scalar_iff]
      rcases declared with declared | declared
      · rw [declared]
        decide
      · rw [declared]
        decide
  | text declared h =>
      refine iff_of_false h.not_onlyMarks ?_
      rw [hollow_scalar_iff, declared]
      decide
  | boolean format declared =>
      rw [hollow_scalar_iff, declared]
      rfl
  | declared => exact hollow_scalar_iff.symm
  | object => exact hollow_object_iff.symm

/-- **The type of a property is only marks exactly where the declared type of its leaf is.** -/
theorem onlyMarks_columnType_iff (h : n.typeFailure? address = none) :
    OnlyMarks (n.columnType address) ↔ n.Hollow := by
  rw [columnType, onlyMarks_append_marks_iff, ← hollow_leaf_iff]
  exact (resolves_leaf_iff.mpr ⟨h, rfl⟩).onlyMarks_iff

end Node

/-! ### The columns of a table -/

/-- The policies of the four groups. -/
def Settings.policies (settings : Settings) : List Policy :=
  [settings.id, settings.timestamp, settings.operator, settings.softDelete]

/-- The ways in which the table of an entity comes to a column whose type is only marks. -/
inductive HollowIn (settings : Settings) (entity : String × Node) : Prop
  /-- A column that the user gave. -/
  | given {policy : Policy} {column : Column}
      (hpolicy : policy ∈ (settings.within entity.2.overrides).policies)
      (hcolumn : column ∈ policy.given) (h : OnlyMarks column.type)
  /-- A tag for the type of the key. -/
  | key {type : String} (htag : (settings.within entity.2.overrides).id = .tagged type)
      (h : OnlyMarks type)
  /-- A type that the entity settles for its declared columns. -/
  | settled {type : String} (htype : entity.2.overrides.dataType = some type)
      (hproperties : entity.2.properties ≠ []) (h : OnlyMarks type)
  /-- A property. -/
  | declared {property : String × Node} (htype : entity.2.overrides.dataType = none)
      (hproperty : property ∈ entity.2.properties) (h : property.2.Hollow)

namespace Blueprint

variable {settings : Settings} {entity : String × Node}

theorem mem_entityColumns_iff {column : Column} :
    column ∈ entityColumns settings entity ↔
      column ∈ (settings.within entity.2.overrides).id.idColumns ∨
      (∃ property ∈ entity.2.properties,
        declaredColumn settings entity.2.overrides ⟨settings.schema, entity.1⟩ property = column) ∨
      column ∈ (settings.within entity.2.overrides).timestamp.chosen Policy.timestampPair ∨
      column ∈ (settings.within entity.2.overrides).operator.chosen Policy.operatorPair ∨
      column ∈ (settings.within entity.2.overrides).softDelete.softDeleteColumns := by
  simp only [entityColumns, Settings.within, List.mem_append, List.mem_map, or_assoc]

/-- Where the columns of the table of an entity come from. -/
inductive ColumnFrom (settings : Settings) (entity : String × Node) : Column → Prop
  | declared {property : String × Node} (hproperty : property ∈ entity.2.properties) :
      ColumnFrom settings entity
        (declaredColumn settings entity.2.overrides ⟨settings.schema, entity.1⟩ property)
  | given {policy : Policy} {column : Column}
      (hpolicy : policy ∈ (settings.within entity.2.overrides).policies)
      (hcolumn : column ∈ policy.given) : ColumnFrom settings entity column
  | serial : ColumnFrom settings entity (Policy.key "serial")
  | tagged {type : String} (htag : (settings.within entity.2.overrides).id = .tagged type) :
      ColumnFrom settings entity (Policy.key type)
  | paired {column : Column} (hcolumn : column ∈ Policy.timestampPair ++ Policy.operatorPair) :
      ColumnFrom settings entity column
  | mark (name : String) : ColumnFrom settings entity (Policy.mark name)

theorem columnFrom_of_mem {column : Column} (h : column ∈ entityColumns settings entity) :
    ColumnFrom settings entity column := by
  rcases mem_entityColumns_iff.mp h with hkey | ⟨property, hproperty, rfl⟩ | hstamp | hsignature |
    hmark
  · rcases Policy.mem_idColumns_iff.mp hkey with ⟨-, rfl⟩ | ⟨type, htag, rfl⟩ | hgiven
    · exact .serial
    · exact .tagged htag
    · exact .given (by simp [Settings.policies]) hgiven
  · exact .declared hproperty
  · rcases Policy.mem_of_mem_chosen hstamp with hpair | hgiven
    · exact .paired (List.mem_append_left _ hpair)
    · exact .given (by simp [Settings.policies]) hgiven
  · rcases Policy.mem_of_mem_chosen hsignature with hpair | hgiven
    · exact .paired (List.mem_append_right _ hpair)
    · exact .given (by simp [Settings.policies]) hgiven
  · rcases Policy.mem_softDeleteColumns_iff.mp hmark with ⟨-, rfl⟩ | ⟨name, -, rfl⟩ | hgiven
    · exact .mark "delete_at"
    · exact .mark name
    · exact .given (by simp [Settings.policies]) hgiven

/-- The columns that the user gave are in the table. -/
theorem mem_entityColumns_of_given {policy : Policy} {column : Column}
    (hpolicy : policy ∈ (settings.within entity.2.overrides).policies)
    (hcolumn : column ∈ policy.given) : column ∈ entityColumns settings entity := by
  rw [mem_entityColumns_iff]
  simp only [Settings.policies, List.mem_cons, List.not_mem_nil, or_false] at hpolicy
  rcases hpolicy with rfl | rfl | rfl | rfl
  · exact .inl (Policy.mem_idColumns_iff.mpr (.inr (.inr hcolumn)))
  · exact .inr (.inr (.inl (Policy.mem_chosen_of_mem_given hcolumn)))
  · exact .inr (.inr (.inr (.inl (Policy.mem_chosen_of_mem_given hcolumn))))
  · exact .inr (.inr (.inr (.inr (Policy.mem_softDeleteColumns_iff.mpr (.inr (.inr hcolumn))))))

/-- The type of a declared column is only marks where the one settled for it is, or else where its
property has such a type. -/
theorem onlyMarks_declaredColumn_iff {property : String × Node}
    (typed : columnFailure? entity.2.overrides ⟨settings.schema, entity.1⟩ property = none) :
    OnlyMarks (declaredColumn settings entity.2.overrides ⟨settings.schema, entity.1⟩
        property).type ↔
      (∃ type, entity.2.overrides.dataType = some type ∧ OnlyMarks type) ∨
        entity.2.overrides.dataType = none ∧ property.2.Hollow := by
  unfold columnFailure? at typed
  unfold declaredColumn
  cases htype : entity.2.overrides.dataType with
  | some type => simp
  | none =>
      rw [htype] at typed
      simpa using Node.onlyMarks_columnType_iff typed

/-- **A table has a column whose type is only marks exactly where one of the ways leads there.** -/
theorem exists_onlyMarks_iff
    (typed : ∀ property ∈ entity.2.properties,
      columnFailure? entity.2.overrides ⟨settings.schema, entity.1⟩ property = none) :
    (∃ column ∈ entityColumns settings entity, OnlyMarks column.type) ↔
      HollowIn settings entity := by
  constructor
  · rintro ⟨column, hcolumn, h⟩
    cases columnFrom_of_mem hcolumn with
    | declared hproperty =>
        rcases (onlyMarks_declaredColumn_iff (typed _ hproperty)).mp h with
          ⟨type, htype, htypeMarks⟩ | ⟨htype, hhollow⟩
        · exact .settled htype (List.ne_nil_of_mem hproperty) htypeMarks
        · exact .declared htype hproperty hhollow
    | given hpolicy hgiven => exact .given hpolicy hgiven h
    | serial =>
        have hserial : ¬ OnlyMarks "serial" := by decide
        exact absurd h hserial
    | tagged htag => exact .key htag h
    | paired hpair =>
        have hpairs : ∀ c ∈ Policy.timestampPair ++ Policy.operatorPair, ¬ OnlyMarks c.type := by
          decide
        exact absurd h (hpairs column hpair)
    | mark name =>
        have hmark : ¬ OnlyMarks "timestamp" := by decide
        exact absurd h hmark
  · intro h
    cases h with
    | given hpolicy hcolumn h => exact ⟨_, mem_entityColumns_of_given hpolicy hcolumn, h⟩
    | @key type htag h =>
        refine ⟨Policy.key type, mem_entityColumns_iff.mpr (.inl ?_), h⟩
        exact Policy.mem_idColumns_iff.mpr (.inr (.inl ⟨type, htag, rfl⟩))
    | settled htype hproperties h =>
        obtain ⟨property, rest, hcons⟩ := List.exists_cons_of_ne_nil hproperties
        have hproperty : property ∈ entity.2.properties := hcons ▸ List.mem_cons_self
        exact ⟨_, mem_entityColumns_iff.mpr (.inr (.inl ⟨property, hproperty, rfl⟩)),
          (onlyMarks_declaredColumn_iff (typed property hproperty)).mpr (.inl ⟨_, htype, h⟩)⟩
    | @declared property htype hproperty h =>
        exact ⟨_, mem_entityColumns_iff.mpr (.inr (.inl ⟨property, hproperty, rfl⟩)),
          (onlyMarks_declaredColumn_iff (typed property hproperty)).mpr (.inr ⟨htype, h⟩)⟩

end Blueprint

/--
**Every column of a compiled model has a type, and the type is only marks exactly where `HollowIn`
says so.**  A scalar without a type stops the compiling where it is the property itself; inside
lists it leaves one mark for each of them.
-/
theorem columnTypes_hollow_iff (m : Model) (settings : Settings) :
    (∀ migration, m.compile settings = .ok migration →
      (∀ table ∈ migration.blueprint.tables, ∀ column ∈ table.columns, column.type ≠ "") ∧
      List.Forall₂ (fun entity table =>
          (∃ column ∈ table.columns, OnlyMarks column.type) ↔ HollowIn settings entity)
        m.entities migration.blueprint.tables) ∧
    ∀ (i j k : Nat) (entity property : String × Node),
      m.entities[i]? = some entity → entity.2.overrides.dataType = none →
      entity.2.properties[j]? = some property → property.2.Bare k →
      (k = 0 → (∀ migration, m.compile settings ≠ .ok migration) ∧
        (m.Shaped → m.Typed →
          ∃ part column, m.compile settings = .error (.missingColumnPart part column))) ∧
      (0 < k → ∀ migration, m.compile settings = .ok migration →
        ∃ table column, migration.blueprint.tables[i]? = some table ∧
          table.columns[(entity.2.overrides.id.getD settings.id).idColumns.length + j]?
            = some column ∧
          column.type = Node.marks k) := by
  have hcomplete : ∀ migration, m.compile settings = .ok migration →
      (m.outline settings).Complete := fun migration compiled =>
    Model.partFailure?_eq_none_iff.mp (Model.of_compiled compiled).2.1
  constructor
  · intro migration compiled
    obtain ⟨hdrawn, -, rfl⟩ := Model.of_compiled compiled
    refine ⟨fun table htable column hcolumn =>
      (hcomplete _ compiled table htable column hcolumn).2, ?_⟩
    show List.Forall₂ _ _ (m.entities.map _)
    rw [List.forall₂_map_right_iff, List.forall₂_same]
    intro entity hentity
    have hentity := List.findSome?_eq_none_iff.mp hdrawn entity hentity
    have htypes := (Option.or_eq_none_iff.mp hentity).2
    exact Blueprint.exists_onlyMarks_iff (List.findSome?_eq_none_iff.mp htypes)
  · intro i j k entity property hentity htype hproperty hbare
    have htable : (m.outline settings).tables[i]?
        = some (Blueprint.entityTable settings entity) :=
      (List.getElem?_map ..).trans (congrArg _ hentity)
    have hcolumn : (Blueprint.entityTable settings entity).columns[(entity.2.overrides.id.getD
        settings.id).idColumns.length + j]? = some (Blueprint.declaredColumn settings
          entity.2.overrides ⟨settings.schema, entity.1⟩ property) :=
      Blueprint.entityColumns_getElem? hproperty
    have hmarks : (Blueprint.declaredColumn settings entity.2.overrides
        ⟨settings.schema, entity.1⟩ property).type = Node.marks k := by
      show entity.2.overrides.dataType.getD _ = _
      rw [htype, Option.getD_none, hbare.columnType_eq]
    constructor
    · rintro rfl
      have hincomplete : ¬ (m.outline settings).Complete := fun complete =>
        (complete _ (List.mem_of_getElem? htable) _ (List.mem_of_getElem? hcolumn)).2 hmarks
      exact ⟨fun migration compiled => hincomplete (hcomplete migration compiled),
        fun shaped typed => Model.exists_missingPart shaped typed hincomplete⟩
    · intro _ migration compiled
      obtain ⟨-, -, rfl⟩ := Model.of_compiled compiled
      exact ⟨_, _, htable, hcolumn, hmarks⟩

/-- A bag of things, of which only the key and the things are kept. -/
def bag (things : Node) : Model :=
  Model.ofList [("bag", .object [("things", things)]
    { timestamp := some .disabled, softDelete := some .disabled } {})]

/-- A scalar of which nothing is said. -/
def untyped : Node :=
  .scalar none {}

theorem columnTypes_hollow_iff_bag :
    (∃ part column, (bag untyped).compile {} = .error (.missingColumnPart part column)) ∧
    ∃ migration table column,
      (bag (.list (.list untyped {}) {})).compile {} = .ok migration ∧
      migration.blueprint.tables[0]? = some table ∧ table.columns[1]? = some column ∧
      column.type = Node.marks 2 := by
  have shaped : (bag untyped).Shaped := Model.shapeFailure?_eq_none_iff.mp rfl
  have typed : (bag untyped).Typed := (Model.typeFailure?_eq_none_iff {}).mp rfl
  have hcompiled : (bag (.list (.list untyped {}) {})).compile {}
      = .ok ((bag (.list (.list untyped {}) {})).migration {}) :=
    Model.compile_of_none (by decide +kernel)
  constructor
  · exact (((columnTypes_hollow_iff (bag untyped) {}).2 0 0 0 _ _ rfl rfl rfl
      (.scalar none rfl)).1 rfl).2 shaped typed
  · obtain ⟨table, column, htable, hcolumn, htype⟩ :=
      ((columnTypes_hollow_iff (bag (.list (.list untyped {}) {})) {}).2 0 0 2 _ _ rfl rfl rfl
        (.list _ (.list _ (.scalar none rfl)))).2 (by decide) _ hcompiled
    exact ⟨_, table, column, hcompiled, htable, hcolumn, htype⟩

/-- A list of things without a type compiles, and nothing but marks is written as its type. -/
theorem columnTypes_hollow : ∃ migration table column,
    (bag (.list untyped {})).compile {} = .ok migration ∧
    migration.blueprint.tables[0]? = some table ∧ table.columns[1]? = some column ∧
    column.type = "[]" ∧ Script.columnText column = "things []" ∧ OnlyMarks column.type := by
  have hcompiled : (bag (.list untyped {})).compile {}
      = .ok ((bag (.list untyped {})).migration {}) :=
    Model.compile_of_none (by decide +kernel)
  refine ⟨_, _, _, hcompiled, rfl, rfl, ?_, ?_, ?_⟩
  · decide +kernel
  · decide +kernel
  · decide +kernel

end Tablewright
