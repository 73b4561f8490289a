/-
The enumeration types of a blueprint.

A property that is an enumeration, or a list of enumerations to any depth, adds
one type, which is named after the entity and the property with an underscore
between them.  There are no others, and the column of such a property has just
this type with a mark for every list.

The two sides come about apart from each other: the type of a column is found on
the way down the lists, the members of the type by looking at the leaf alone.
`Nests` describes the property without either of them.
-/
import Tablewright.Proofs.Blueprint

namespace Tablewright

/-! ### The declared enumerations -/

theorem Node.enumMembers?_eq_some_iff {n : Node} {members : List Literal} :
    n.enumMembers? = some members ↔ ∃ k, n.Nests members k := by
  constructor
  · intro h
    have hleaf : ∃ traits, n.leaf = .enumeration members traits := by
      unfold enumMembers? at h
      cases hn : n.leaf with
      | enumeration found traits =>
          rw [hn] at h
          exact ⟨traits, by rw [Option.some.inj h]⟩
      | _ => simp [hn, members?] at h
    obtain ⟨traits, htraits⟩ := hleaf
    exact ⟨n.depth, nests_of_leaf htraits⟩
  · rintro ⟨k, h⟩
    obtain ⟨traits, hleaf⟩ := h.leaf_eq
    rw [enumMembers?, hleaf]
    rfl

/-- A declared enumeration: where it is declared, and its members. -/
structure EnumProperty where
  entity : String
  property : String
  members : List Literal
deriving DecidableEq

namespace EnumProperty

/-- The name of the type without the schema. -/
def stem (p : EnumProperty) : String :=
  p.entity ++ "_" ++ p.property

/-- The type that the enumeration adds. -/
def entry (schema : String) (p : EnumProperty) : EnumType :=
  ⟨schema ++ "." ++ p.stem, p.members⟩

end EnumProperty

namespace Model

/-- The declared enumerations of a model in the order of the document, those inside lists
included. -/
def enumProperties (m : Model) : List EnumProperty :=
  m.entities.flatMap fun entity =>
    entity.2.properties.filterMap fun property =>
      property.2.enumMembers?.map fun members => ⟨entity.1, property.1, members⟩

theorem outline_types (m : Model) (settings : Settings) :
    (m.outline settings).types = m.enumProperties.map (·.entry settings.schema) := by
  have hentity : ∀ entity, Blueprint.entityTypes settings entity
      = (entity.2.properties.filterMap fun property =>
          property.2.enumMembers?.map fun members =>
            (⟨entity.1, property.1, members⟩ : EnumProperty)).map
          (·.entry settings.schema) := by
    intro entity
    unfold Blueprint.entityTypes
    induction entity.2.properties with
    | nil => rfl
    | cons property rest ih =>
        rw [List.flatMap_cons, ih, List.filterMap_cons]
        cases hmembers : property.2.enumMembers? with
        | none => simp [Blueprint.propertyTypes, hmembers]
        | some members =>
            simp [Blueprint.propertyTypes, hmembers, EnumProperty.entry, EnumProperty.stem,
              ColumnAddress.enumTypeName, String.append_assoc]
  show m.entities.flatMap (Blueprint.entityTypes settings) = _
  rw [enumProperties, List.map_flatMap]
  exact congrArg (m.entities.flatMap ·) (funext hentity)

end Model

/--
**The enumeration types are those of the declared enumerations, and the columns use them.**
-/
theorem enumTypes_exact {m : Model} {settings : Settings} {log rest : Log} {b : Blueprint}
    (drawn : (m.blueprint settings).from log = (.ok b, rest)) :
    b.types = m.enumProperties.map (·.entry settings.schema) ∧
    (∀ (property : Node) (members : List Literal),
      property.enumMembers? = some members ↔ ∃ k, property.Nests members k) ∧
    ∀ (i j k : Nat) (entity name : String) (properties : List (String × Node))
      (overrides : Overrides) (traits : Traits) (property : Node) (members : List Literal),
      m.entities[i]? = some (entity, .object properties overrides traits) →
      overrides.dataType = none →
      properties[j]? = some (name, property) →
      property.Nests members k →
      ∃ table column, b.tables[i]? = some table ∧ table.name = settings.schema ++ "." ++ entity ∧
        table.columns[(overrides.id.getD settings.id).idColumns.length + j]? = some column ∧
        column.name = name ∧
        column.type = settings.schema ++ "." ++ entity ++ "_" ++ name ++ Node.marks k := by
  obtain rfl := Model.eq_outline drawn
  refine ⟨m.outline_types settings, fun _ _ => Node.enumMembers?_eq_some_iff, ?_⟩
  intro i j k entity name properties overrides traits property members hentity htype hproperty
    hnests
  refine ⟨Blueprint.entityTable settings (entity, .object properties overrides traits), _, ?_,
    rfl, Blueprint.entityColumns_getElem? hproperty, rfl, ?_⟩
  · show (m.entities.map _)[i]? = _
    rw [List.getElem?_map, hentity, Option.map_some]
  · show overrides.dataType.getD _ = _
    rw [htype, Option.getD_none, hnests.columnType_eq]
    rfl

/-- An order with a note and with a list of lists of flags. -/
def flaggedOrder : Model :=
  Model.ofList [("order", .object
    [("note", .scalar none { type := some "string" }),
      ("flags", .list (.list (.enumeration [.text "new", .text "paid"]
        { type := some "string" }) {}) {})] {} {})]

theorem enumTypes_exact_flags : ∃ b rest table column,
    (flaggedOrder.blueprint { schema := "shop" }).from [] = (.ok b, rest) ∧
    b.types = [⟨"shop.order_flags", [.text "new", .text "paid"]⟩] ∧
    b.tables[0]? = some table ∧ table.columns[2]? = some column ∧
    column.type = "shop.order_flags[][]" := by
  have drawn : (flaggedOrder.blueprint { schema := "shop" }).from []
      = (.ok (flaggedOrder.outline { schema := "shop" }), []) := by rfl
  obtain ⟨htypes, -, hcolumns⟩ := enumTypes_exact drawn
  obtain ⟨table, column, htable, -, hcolumn, -, htype⟩ := hcolumns 0 1 2 _ _ _ _ _ _ _
    rfl rfl rfl (.list _ (.list _ (.enumeration _)))
  exact ⟨_, _, table, column, drawn, htypes.trans (by decide), htable, hcolumn,
    htype.trans (by decide)⟩

end Tablewright
