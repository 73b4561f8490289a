/-
The warnings of a compiled model.

Warnings come from three stages, and each stage puts its own behind those of the
stage before: remarks on entities and names, then what is odd about types and tags
while a blueprint is drawn, and then what is empty when the script is written.  In
a run that nothing stops none of them is missing, so the log can be told from the
model and its blueprint.

Blank comments are among the things that writing a script would warn of.  They
never come up, because a description that is blank gives no comment.
-/
import Tablewright.Proofs.Comments
import Tablewright.Proofs.Compile
import Tablewright.Proofs.Tables

namespace Tablewright

variable {α : Type}

/-! ### One warning for everything that is odd -/

namespace Log

theorem flatMap_eq_map_filter {odd : α → Bool} {about : α → Warning} {added : α → Log} {l : List α}
    (h : ∀ a ∈ l, added a = if odd a then [about a] else []) :
    l.flatMap added = (l.filter odd).map about := by
  induction l with
  | nil => rfl
  | cons a rest ih =>
      have hrest := ih fun other hother => h other (List.mem_cons_of_mem a hother)
      rw [List.flatMap_cons, h a List.mem_cons_self, hrest]
      by_cases hodd : odd a = true
      · rw [if_pos hodd, List.filter_cons_of_pos hodd, List.map_cons, List.singleton_append]
      · rw [if_neg hodd, List.filter_cons_of_neg hodd, List.nil_append]

theorem filterMap_eq_map_filter {odd : α → Bool} {about : α → Warning}
    {warning? : α → Option Warning} {l : List α}
    (h : ∀ a ∈ l, warning? a = if odd a then some (about a) else none) :
    l.filterMap warning? = (l.filter odd).map about := by
  rw [List.filterMap_eq_flatMap_toList]
  refine flatMap_eq_map_filter fun a ha => ?_
  rw [h a ha]
  split
  · rfl
  · rfl

end Log

/-! ### Remarks -/

/-- The warning about an entity without properties. -/
def emptyEntityWarning (entity : String × Node) : Warning :=
  ⟨.emptyEntity, entity.1, "Entity '" ++ entity.1 ++ "' has no properties"⟩

/-- The warning about an entity whose name would need quotes. -/
def entityNameWarning (entity : String) : Warning :=
  ⟨.unquotedIdentifier, entity, "Entity name '" ++ entity ++ "' is not a plain identifier"⟩

/-- The warning about a property whose name would need quotes. -/
def propertyNameWarning (entity : String) (property : String × Node) : Warning :=
  ⟨.unquotedIdentifier, entity ++ "." ++ property.1,
    "Property name '" ++ property.1 ++ "' is not a plain identifier"⟩

/-- The warnings about the names of an entity and of its properties. -/
def nameWarnings (entity : String × Node) : Log :=
  (if Validation.isIdentifier entity.1 then [] else [entityNameWarning entity.1])
  ++ (entity.2.properties.filter fun property => !Validation.isIdentifier property.1).map
    (propertyNameWarning entity.1)

theorem kind_of_mem_nameWarnings {entity : String × Node} {w : Warning}
    (hw : w ∈ nameWarnings entity) : w.kind = .unquotedIdentifier := by
  unfold nameWarnings at hw
  rcases List.mem_append.mp hw with hw | hw
  · split at hw
    · exact absurd hw (by simp)
    · rw [List.mem_singleton.mp hw]
      rfl
  · obtain ⟨property, -, rfl⟩ := List.mem_map.mp hw
    rfl

namespace Validation

theorem map_warning_nameRemarks (entity : String × Node) :
    (nameRemarks entity.1 entity.2).map Remark.warning = nameWarnings entity := by
  have hentity : (entityNameRemark? entity.1).toList.map Remark.warning
      = if isIdentifier entity.1 then [] else [entityNameWarning entity.1] := by
    unfold entityNameRemark?
    split
    · rfl
    · rfl
  have hproperty : ∀ property ∈ entity.2.properties,
      (propertyNameRemark? entity.1 property.1).map Remark.warning
        = if !isIdentifier property.1 then some (propertyNameWarning entity.1 property) else none := by
    intro property _
    unfold propertyNameRemark?
    cases isIdentifier property.1 with
    | true => rfl
    | false => rfl
  rw [nameRemarks, List.map_append, hentity, List.map_filterMap]
  exact congrArg _ (Log.filterMap_eq_map_filter hproperty)

/-- The remarks on a model whose entities are objects, as warnings. -/
theorem map_warning_lints {m : Model} (shaped : m.Shaped) :
    (validate lints m).remarks.map Remark.warning
      = (m.entities.filter (·.2.properties.isEmpty)).map emptyEntityWarning
        ++ m.entities.flatMap nameWarnings := by
  have hremarks : (validate lints m).remarks
      = m.entities.filterMap (fun entity => emptyRemark? entity.1 entity.2)
        ++ m.entities.flatMap (fun entity => nameRemarks entity.1 entity.2) := by
    rw [validate_eq]
    simp [lints, entityProperties, identifiers]
  have hempty : ∀ entity ∈ m.entities, (emptyRemark? entity.1 entity.2).map Remark.warning
      = if entity.2.properties.isEmpty then some (emptyEntityWarning entity) else none := by
    rintro ⟨name, node⟩ hentity
    have hobject : node.isObject = true := shaped _ hentity
    cases node with
    | object properties overrides traits =>
        cases properties with
        | nil => rfl
        | cons property rest => rfl
    | _ => exact absurd hobject (by simp [Node.isObject])
  rw [hremarks, List.map_append, List.map_filterMap, List.map_flatMap,
    Log.filterMap_eq_map_filter hempty]
  exact congrArg _ (List.flatMap_congr fun entity _ => map_warning_nameRemarks entity)

end Validation

/-! ### Types -/

/-- The warnings about numbers of an unknown format, of which there are none where the entity
settles the type itself. -/
def formatWarnings (settings : Settings) (entity : String × Node) : Log :=
  if entity.2.overrides.dataType.isSome then []
  else entity.2.properties.filterMap fun property =>
    property.2.unknownFormat?.map
      (Node.unknownFormatWarning ⟨settings.schema, entity.1, property.1⟩)

theorem flatMap_columnWarnings (settings : Settings) (entity : String × Node) :
    entity.2.properties.flatMap
        (Blueprint.columnWarnings entity.2.overrides ⟨settings.schema, entity.1⟩)
      = formatWarnings settings entity := by
  unfold Blueprint.columnWarnings formatWarnings
  split
  · simp
  · rw [List.filterMap_eq_flatMap_toList]
    exact List.flatMap_congr fun property _ => Node.typeWarnings_eq _ property.2

theorem kind_of_mem_formatWarnings {settings : Settings} {entity : String × Node} {w : Warning}
    (hw : w ∈ formatWarnings settings entity) : w.kind = .unknownNumericFormat := by
  rw [← flatMap_columnWarnings] at hw
  obtain ⟨property, -, hw⟩ := List.mem_flatMap.mp hw
  exact Blueprint.kind_of_mem_columnWarnings hw

/-! ### What is empty -/

/-- The warning about a type without members. -/
def emptyTypeWarning (type : EnumType) : Warning :=
  ⟨.emptyEnum, type.name, "Enum type has no values"⟩

/-- The warning about a table without columns. -/
def emptyTableWarning (table : Table) : Warning :=
  ⟨.emptyColumns, table.name, "Table has no columns"⟩

/-- The warnings of a script that nothing stops the writing of. -/
theorem Script.blueprintWarnings_of_none {b : Blueprint} (h : blueprintFailure? b = none)
    (hcomments : ∀ c ∈ b.comments, commentWarnings c = []) :
    blueprintWarnings b
      = (b.types.filter (·.members.isEmpty)).map emptyTypeWarning
        ++ (b.tables.filter (·.columns.isEmpty)).map emptyTableWarning := by
  have hnone : b.comments.flatMap commentWarnings = [] := List.flatMap_eq_nil_iff.mpr hcomments
  rw [blueprintWarnings, h, Log.past_none, hnone, List.append_nil,
    Log.upTo_of_none _ (List.findSome?_eq_none_iff.mp h)]
  exact congrArg₂ _ (Log.flatMap_eq_map_filter fun _ _ => rfl)
    (Log.flatMap_eq_map_filter fun _ _ => rfl)

/-- The warnings of a model that nothing stops the compiling of, stage by stage. -/
theorem Model.warnings_of_none (m : Model) {settings : Settings}
    (hdrawn : m.blueprintFailure? settings = none)
    (hwritten : Script.blueprintFailure? (m.outline settings) = none) :
    (m.migration settings).warnings
      = (m.entities.filter (·.2.properties.isEmpty)).map emptyEntityWarning
        ++ m.entities.flatMap nameWarnings
        ++ (m.entities.flatMap fun entity =>
          formatWarnings settings entity ++ tagWarnings settings entity)
        ++ ((m.outline settings).types.filter (·.members.isEmpty)).map emptyTypeWarning
        ++ ((m.outline settings).tables.filter (·.columns.isEmpty)).map emptyTableWarning := by
  have hlints := Validation.map_warning_lints (blueprintFailure?_eq_none_iff.mp hdrawn).1
  have hscript := Script.blueprintWarnings_of_none hwritten fun _ => commentWarnings_outline
  rw [migration, hlints, hdrawn, Log.past_none, hscript, blueprintWarnings_of_none hdrawn]
  simp only [flatMap_columnWarnings, List.append_assoc]

/--
**A compiled model warns of these things, in this order, and of nothing else.**
-/
theorem compile_warnings {m : Model} {settings : Settings} {migration : Migration}
    (compiled : m.compile settings = .ok migration) :
    migration.warnings
      = (m.entities.filter (·.2.properties.isEmpty)).map emptyEntityWarning
        ++ m.entities.flatMap nameWarnings
        ++ (m.entities.flatMap fun entity =>
          formatWarnings settings entity ++ tagWarnings settings entity)
        ++ (migration.blueprint.types.filter (·.members.isEmpty)).map emptyTypeWarning
        ++ (migration.blueprint.tables.filter (·.columns.isEmpty)).map emptyTableWarning ∧
    (∀ (property : Node) (format : String),
      property.unknownFormat? = some format ↔ property.Unreadable format) ∧
    ∀ w ∈ migration.warnings, w.kind ≠ .blankComment := by
  obtain ⟨hdrawn, hwritten, rfl⟩ := Model.of_compiled compiled
  have hwarnings := m.warnings_of_none hdrawn hwritten
  refine ⟨hwarnings, fun _ _ => Node.unknownFormat?_eq_some_iff, ?_⟩
  rw [hwarnings]
  intro w hw
  simp only [List.mem_append, List.mem_map, List.mem_flatMap] at hw
  rcases hw with (((⟨_, -, rfl⟩ | ⟨entity, -, hw⟩) | ⟨entity, -, hw | hw⟩) | ⟨_, -, rfl⟩) | ⟨_, -, rfl⟩
  · nofun
  · simp [kind_of_mem_nameWarnings hw]
  · simp [kind_of_mem_formatWarnings hw]
  · simp [Blueprint.kind_of_mem_tagWarnings hw]
  · nofun
  · nofun

/-- A model with everything that is odd: a name with a blank in it, a number of an unknown format
inside lists, a tag that names no timestamp, an enumeration without members and an entity without
anything. -/
def oddities : Model :=
  Model.ofList [
    ("bare", .object [] { id := some .disabled, timestamp := some .disabled } {}),
    ("cash book", .object
      [("sums", .list (.list (.scalar (some "money") { type := some "number" }) {}) {}),
        ("kind", .enumeration [] { type := some "string" })]
      { timestamp := some (.tagged "created") } {})]

theorem compile_warnings_oddities : ∃ migration,
    oddities.compile { softDelete := .disabled } = .ok migration ∧
    migration.warnings.map (fun w => (w.kind, w.target)) = [
      (.emptyEntity, "bare"), (.unquotedIdentifier, "cash book"),
      (.unknownNumericFormat, "api.cash book.sums"), (.unknownStructuralColumn, "api.cash book"),
      (.emptyEnum, "api.cash book_kind"), (.emptyColumns, "api.bare")] := by
  have hcompiled : oddities.compile { softDelete := .disabled }
      = .ok (oddities.migration { softDelete := .disabled }) :=
    Model.compile_of_none (by decide +kernel)
  refine ⟨_, hcompiled, ?_⟩
  rw [(compile_warnings hcompiled).1]
  decide +kernel

end Tablewright
