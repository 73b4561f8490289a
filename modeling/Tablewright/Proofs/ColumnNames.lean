/-
When the columns of a table can stand side by side.

A table can be created only if its columns have different names and at most one
of them is a primary key.  Nothing looks at either when a blueprint is drawn: the
five groups of columns come about apart from each other, and so do the primary
key of a policy and the one that an entity settles for its declared columns.

As long as no policy brings columns of the user, only two kinds of names can be
the same: that of a declared column and that of a structural one, or that of a
deletion mark, which a tag chooses freely, and that of another structural column.
The argument is that the built-in names are different ones, whatever a tag picks
of them.
-/
import Mathlib.Data.List.Nodup
import Tablewright.Proofs.Compile
import Tablewright.Proofs.Tables

namespace Tablewright

/-! ### Policies without columns of the user -/

namespace Policy

/-- The policy brings no columns of the user. -/
def BuiltIn : Policy → Prop
  | disabled | enabled | tagged _ => True
  | column _ | columns _ => False

/-- What such a policy takes of a pair of names: none of them, the one that its tag is, or both. -/
def picked (policy : Policy) (names : List String) : List String :=
  match policy with
  | disabled => []
  | tagged tag => if tag ∈ names then [tag] else names
  | _ => names

/-- The name of the deletion mark that such a policy gives. -/
def markName? : Policy → Option String
  | enabled => some "delete_at"
  | tagged name => some name
  | _ => none

theorem picked_sublist (policy : Policy) (names : List String) :
    (policy.picked names).Sublist names := by
  cases policy with
  | disabled => exact List.nil_sublist names
  | tagged tag =>
      show List.Sublist (if _ then _ else _) _
      split
      · rename_i htag
        exact List.singleton_sublist.mpr htag
      · exact .refl names
  | _ => exact .refl names

variable {policy : Policy} {pair supplied : List Column}

/-- Such a policy gives one key or none. -/
theorem SuppliesKey.exists_eq (h : policy.SuppliesKey supplied) (builtIn : policy.BuiltIn) :
    ∃ type, supplied = if policy.isEnabled then [key type] else [] := by
  cases h with
  | disabled => exact ⟨"", rfl⟩
  | enabled => exact ⟨"serial", rfl⟩
  | tagged h => exact ⟨_, h⟩
  | column c => exact builtIn.elim
  | columns cs => exact builtIn.elim

theorem SuppliesKey.names (h : policy.SuppliesKey supplied) (builtIn : policy.BuiltIn) :
    supplied.map (·.name) = if policy.isEnabled then ["id"] else [] := by
  obtain ⟨type, rfl⟩ := h.exists_eq builtIn
  split
  · rfl
  · rfl

theorem SuppliesKey.countP (h : policy.SuppliesKey supplied) (builtIn : policy.BuiltIn) :
    supplied.countP (·.isPrimaryKey) = if policy.isEnabled then 1 else 0 := by
  obtain ⟨type, rfl⟩ := h.exists_eq builtIn
  split
  · rfl
  · rfl

/-- Such a policy gives the deletion mark of its name. -/
theorem SuppliesMark.eq_map (h : policy.SuppliesMark supplied) (builtIn : policy.BuiltIn) :
    supplied = policy.markName?.toList.map mark := by
  cases h with
  | disabled => rfl
  | enabled => rfl
  | tagged h => exact h
  | column c => exact builtIn.elim
  | columns cs => exact builtIn.elim

theorem SuppliesMark.names (h : policy.SuppliesMark supplied) (builtIn : policy.BuiltIn) :
    supplied.map (·.name) = policy.markName?.toList := by
  rw [h.eq_map builtIn, List.map_map]
  exact List.map_id _

theorem SuppliesMark.countP (h : policy.SuppliesMark supplied) (builtIn : policy.BuiltIn) :
    supplied.countP (·.isPrimaryKey) = 0 := by
  rw [h.eq_map builtIn, List.countP_map, List.countP_eq_zero]
  intro name _
  exact Bool.false_ne_true

theorem SuppliesPair.names (h : SuppliesPair pair policy supplied) (builtIn : policy.BuiltIn) :
    supplied.map (·.name) = policy.picked (pair.map (·.name)) := by
  cases h with
  | disabled => rfl
  | enabled => rfl
  | tagged h =>
      cases h with
      | named hc htag =>
          obtain rfl := htag
          exact (if_pos (List.mem_map_of_mem hc)).symm
      | neither h => exact (if_neg (by simpa using h)).symm
  | column c => exact builtIn.elim
  | columns cs => exact builtIn.elim

theorem SuppliesPair.countP (h : SuppliesPair pair policy supplied) (builtIn : policy.BuiltIn)
    (hpair : ∀ c ∈ pair, c.isPrimaryKey = false) : supplied.countP (·.isPrimaryKey) = 0 := by
  have hall : pair.countP (·.isPrimaryKey) = 0 :=
    List.countP_eq_zero.mpr fun c hc => by simp [hpair c hc]
  cases h with
  | disabled => rfl
  | enabled => exact hall
  | tagged h =>
      cases h with
      | named hc _ => simp [hpair _ hc]
      | neither _ => exact hall
  | column c => exact builtIn.elim
  | columns cs => exact builtIn.elim

end Policy

namespace Settings

/-- No policy brings columns of the user. -/
structure BuiltIn (settings : Settings) : Prop where
  id : settings.id.BuiltIn
  timestamp : settings.timestamp.BuiltIn
  operator : settings.operator.BuiltIn
  softDelete : settings.softDelete.BuiltIn

/-- The names of the structural columns, but for the deletion mark. -/
def fixedNames (settings : Settings) : List String :=
  (if settings.id.isEnabled then ["id"] else [])
    ++ settings.timestamp.picked ["create_at", "update_at"]
    ++ settings.operator.picked ["create_by", "update_by"]

theorem nodup_fixedNames (settings : Settings) : settings.fixedNames.Nodup := by
  have hkey : (if settings.id.isEnabled then ["id"] else []).Sublist ["id"] := by
    split
    · exact .refl _
    · exact List.nil_sublist _
  have hfixed := (hkey.append (settings.timestamp.picked_sublist ["create_at", "update_at"])).append
    (settings.operator.picked_sublist ["create_by", "update_by"])
  exact List.Nodup.sublist hfixed (by decide)

end Settings

/-! ### Names -/

/-- No column of the entity asks for the name of another one. -/
structure ColumnsApart (settings : Settings) (entity : String × Node) : Prop where
  /-- No property has the name of a structural column. -/
  declared : ∀ property ∈ entity.2.properties,
    property.1 ∉ (settings.within entity.2.overrides).fixedNames ∧
    (settings.within entity.2.overrides).softDelete.markName? ≠ some property.1
  /-- The deletion mark has not the name of another structural column. -/
  mark : ∀ name, (settings.within entity.2.overrides).softDelete.markName? = some name →
    name ∉ (settings.within entity.2.overrides).fixedNames

section

variable {settings : Settings} {entity : String × Node} {properties : List (String × Node)}
  {declared : List Column} {groups : ColumnGroups}

theorem names_of_declares (h : List.Forall₂ (Declares settings entity) properties declared) :
    declared.map (·.name) = properties.map Prod.fst := by
  induction h with
  | nil => rfl
  | cons hcolumn _ ih => rw [List.map_cons, List.map_cons, hcolumn.name, ih]

/-- An entity makes all its declared columns primary keys, or none of them. -/
theorem countP_of_declares (h : List.Forall₂ (Declares settings entity) properties declared) :
    declared.countP (·.isPrimaryKey)
      = if entity.2.overrides.primaryKey = some true then properties.length else 0 := by
  induction h with
  | nil => simp
  | cons hcolumn _ ih =>
      rw [List.countP_cons, ih, Column.isPrimaryKey, hcolumn.primaryKey]
      split
      · simp [*]
      · simp [*]

namespace ColumnGroups.Of

/-- The names of all columns, the declared ones moved behind the others. -/
theorem names_perm (h : groups.Of settings entity)
    (builtIn : (settings.within entity.2.overrides).BuiltIn) :
    (groups.all.map (·.name)).Perm
      ((settings.within entity.2.overrides).fixedNames
        ++ (settings.within entity.2.overrides).softDelete.markName?.toList
        ++ entity.2.properties.map Prod.fst) := by
  have htimestamps := h.timestamps.names builtIn.timestamp
  have hoperators := h.operators.names builtIn.operator
  simp only [all, List.map_append, h.key.names builtIn.id, names_of_declares h.declared,
    htimestamps, hoperators, h.mark.names builtIn.softDelete, Settings.fixedNames,
    List.append_assoc]
  refine .append_left _ (List.perm_append_comm.trans ?_)
  simp only [List.append_assoc]
  exact .refl _

theorem nodup_names_iff (h : groups.Of settings entity)
    (builtIn : (settings.within entity.2.overrides).BuiltIn)
    (hproperties : (entity.2.properties.map Prod.fst).Nodup) :
    (groups.all.map (·.name)).Nodup ↔ ColumnsApart settings entity := by
  rw [(h.names_perm builtIn).nodup_iff, List.nodup_append', List.nodup_append']
  constructor
  · rintro ⟨⟨-, -, hmark⟩, -, hdeclared⟩
    constructor
    · intro property hproperty
      have hfree := fun hname => hdeclared hname (List.mem_map_of_mem hproperty)
      simpa [not_or] using hfree
    · intro name hname hmem
      exact hmark hmem (by simpa using hname)
  · rintro ⟨hdeclared, hmark⟩
    refine ⟨⟨Settings.nodup_fixedNames _, ?_, ?_⟩, hproperties, ?_⟩
    · cases (settings.within entity.2.overrides).softDelete.markName? with
      | none => exact List.nodup_nil
      | some name => exact List.nodup_singleton name
    · intro name hmem hname
      exact hmark name (by simpa using hname) hmem
    · intro name hname hmem
      obtain ⟨property, hproperty, rfl⟩ := List.mem_map.mp hmem
      obtain ⟨hfixed, hfree⟩ := hdeclared property hproperty
      rcases List.mem_append.mp hname with hname | hname
      · exact hfixed hname
      · exact hfree (by simpa using hname)

/-- The primary keys are the one of the policy, and every declared column or none of them. -/
theorem countP_primaryKey (h : groups.Of settings entity)
    (builtIn : (settings.within entity.2.overrides).BuiltIn) :
    groups.all.countP (·.isPrimaryKey)
      = (if (settings.within entity.2.overrides).id.isEnabled then 1 else 0)
        + if entity.2.overrides.primaryKey = some true then entity.2.properties.length else 0 := by
  have htimestamps := h.timestamps.countP builtIn.timestamp (by decide)
  have hoperators := h.operators.countP builtIn.operator (by decide)
  simp only [all, List.countP_append, h.key.countP builtIn.id, countP_of_declares h.declared,
    htimestamps, hoperators, h.mark.countP builtIn.softDelete, Nat.add_zero]

end ColumnGroups.Of

end

/--
**The columns of a table have different names exactly when no two of them ask for one name, and at
most one is a primary key exactly when the entity and its policy do not both settle one.**
-/
theorem columns_apart_iff {m : Model} {settings : Settings} {migration : Migration}
    (compiled : m.compile settings = .ok migration)
    (builtIn : ∀ entity ∈ m.entities, (settings.within entity.2.overrides).BuiltIn) :
    List.Forall₂ (fun entity table =>
        ((table.columns.map (·.name)).Nodup ↔ ColumnsApart settings entity) ∧
        (table.columns.countP (·.isPrimaryKey) ≤ 1 ↔
          (entity.2.overrides.primaryKey = some true →
            entity.2.properties.length
              + (if (settings.within entity.2.overrides).id.isEnabled then 1 else 0) ≤ 1)))
      m.entities migration.blueprint.tables := by
  obtain ⟨hdrawn, -, rfl⟩ := Model.of_compiled compiled
  have htables := (List.forall₂_and_left _ _).mpr
    ⟨fun entity hentity => And.intro (builtIn entity hentity) (Model.nodup_properties hentity),
      Model.tabulates_outline hdrawn⟩
  refine htables.imp ?_
  rintro entity table ⟨⟨hbuiltIn, hproperties⟩, -, -, groups, hcolumns, hgroups⟩
  rw [hcolumns]
  refine ⟨hgroups.nodup_names_iff hbuiltIn hproperties, ?_⟩
  rw [hgroups.countP_primaryKey hbuiltIn]
  split
  · split
    · simp [*, Nat.add_comm]
    · simp [*]
  · split
    · simp [*]
    · simp [*]

/-- A note whose tags name its last change and its deletion mark. -/
def markedNote : Model :=
  Model.ofList [("note", .object
    [("title", .scalar none { type := some "string" }),
      ("body", .scalar none { type := some "string" })]
    { timestamp := some (.tagged "update_at"), softDelete := some (.tagged "gone_at") } {})]

theorem columns_apart_note : ∃ migration table, markedNote.compile {} = .ok migration ∧
    migration.blueprint.tables = [table] ∧
    (table.columns.map (·.name)).Nodup ∧ table.columns.countP (·.isPrimaryKey) ≤ 1 := by
  have hcompiled : markedNote.compile {} = .ok (markedNote.migration {}) :=
    Model.compile_of_none (by decide +kernel)
  have hentities : markedNote.entities = [("note", .object
    [("title", .scalar none { type := some "string" }),
      ("body", .scalar none { type := some "string" })]
    { timestamp := some (.tagged "update_at"), softDelete := some (.tagged "gone_at") } {})] := by
    rfl
  have hbuiltIn : ∀ entity ∈ markedNote.entities,
      (Settings.within {} entity.2.overrides).BuiltIn := by
    rw [hentities, List.forall_mem_singleton]
    exact ⟨trivial, trivial, trivial, trivial⟩
  have htables := columns_apart_iff hcompiled hbuiltIn
  rw [hentities] at htables
  obtain ⟨table, none, ⟨hnames, hkeys⟩, hnone, htable⟩ := List.forall₂_cons_left_iff.mp htables
  obtain rfl := List.forall₂_nil_left_iff.mp hnone
  refine ⟨_, table, hcompiled, htable, hnames.mpr ⟨?_, ?_⟩, hkeys.mpr nofun⟩
  · rw [Node.properties_object]
    decide
  · rintro name ⟨⟩
    decide

/-- An account that declares a column under the name of its key, and a link that settles both of its
ends as primary keys. -/
def repeatedKeys : Model :=
  Model.ofList [
    ("account", .object [("id", .scalar none { type := some "integer" })] {} {}),
    ("link", .object [("left", .reference "account" {}), ("right", .reference "account" {})]
      { id := some .disabled, primaryKey := some true } {})]

/-- The policies of `repeatedKeys` are built in, and yet two columns of a table have one name, and
two columns of a table are primary keys. -/
theorem columns_clash : ∃ migration, repeatedKeys.compile {} = .ok migration ∧
    (∀ entity ∈ repeatedKeys.entities, (Settings.within {} entity.2.overrides).BuiltIn) ∧
    (∃ table ∈ migration.blueprint.tables, ¬ (table.columns.map (·.name)).Nodup) ∧
    ∃ table ∈ migration.blueprint.tables, ¬ table.columns.countP (·.isPrimaryKey) ≤ 1 := by
  have hcompiled : repeatedKeys.compile {} = .ok (repeatedKeys.migration {}) :=
    Model.compile_of_none (by decide +kernel)
  have hentities : repeatedKeys.entities = [
      ("account", .object [("id", .scalar none { type := some "integer" })] {} {}),
      ("link", .object [("left", .reference "account" {}), ("right", .reference "account" {})]
        { id := some .disabled, primaryKey := some true } {})] := by rfl
  refine ⟨_, hcompiled, ?_, ?_, ?_⟩
  · rw [hentities, List.forall_mem_cons, List.forall_mem_singleton]
    exact ⟨⟨trivial, trivial, trivial, trivial⟩, trivial, trivial, trivial, trivial⟩
  · decide +kernel
  · decide +kernel

end Tablewright
