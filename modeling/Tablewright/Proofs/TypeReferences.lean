/-
How tables refer to the enumeration types.

A blueprint names the type of an enumeration and the type of its column alike, but
a script writes the two in different ways: the statement that creates the type has
the name as it is, and the column has its upper case, with the marks of lists
behind it.  The server folds the letters of ASCII alone, so the column finds its
type again only where no other letter of the name was changed.

That no name is remarked on does not help with that.  The letters of all scripts
make identifiers; what identifiers rule out are brackets, so that the marks of
lists can be told from the name.
-/
import Tablewright.Proofs.EnumTypes
import Tablewright.Proofs.Script.Spacing
import Tablewright.Proofs.Text.UpperCase
import Tablewright.Proofs.Warnings

namespace Tablewright

/-! ### Marks of lists -/

/-- A type that is read from its end, without the marks of lists it begins with there. -/
def dropMarks : List Char → List Char
  | ']' :: '[' :: rest => dropMarks rest
  | type => type

/-- A type without the marks of lists at its end. -/
def unmarked (type : String) : String :=
  String.ofList (dropMarks type.toList.reverse).reverse

theorem unmarked_append_marks (type : String) (k : Nat) :
    unmarked (type ++ Node.marks k) = unmarked type := by
  induction k with
  | zero => rw [Node.marks, String.append_empty]
  | succ k ih =>
      have hreverse : (type ++ (Node.marks k ++ "[]")).toList.reverse
          = ']' :: '[' :: (type ++ Node.marks k).toList.reverse := by
        rw [← String.append_assoc, String.toList_append, List.reverse_append]
        rfl
      rw [unmarked, Node.marks, hreverse, dropMarks, ← unmarked, ih]

theorem unmarked_of_notMem {type : String} (h : ']' ∉ type.toList) : unmarked type = type := by
  have hsame : dropMarks type.toList.reverse = type.toList.reverse := by
    unfold dropMarks
    split
    · rename_i rest heq
      exact absurd (List.mem_reverse.mp (heq ▸ List.mem_cons_self)) h
    · rfl
  rw [unmarked, hsame, List.reverse_reverse, String.ofList_toList]

/-- Upper case leaves the marks of lists. -/
theorem Text.upper_marks (k : Nat) : Text.upper (Node.marks k) = Node.marks k := by
  have hmark : Text.upper "[]" = "[]" := by decide
  induction k with
  | zero => rfl
  | succ k ih => rw [Node.marks, Text.upper_append, ih, hmark]

/-! ### Identifiers -/

/-- An identifier has no bracket. -/
theorem Validation.not_mem_of_isIdentifier {name : String} (h : isIdentifier name = true) :
    ']' ∉ name.toList := by
  unfold isIdentifier at h
  split at h
  · exact absurd h (by simp)
  · rename_i first rest hname
    rw [hname]
    intro hmem
    rw [Bool.and_eq_true, List.all_eq_true] at h
    rcases List.mem_cons.mp hmem with rfl | hmem
    · exact absurd h.1 (by decide +kernel)
    · exact absurd (h.2 _ hmem) (by decide +kernel)

/-- Where no name is remarked on, all names are identifiers. -/
theorem Model.isIdentifier_of_unwarned {m : Model} {settings : Settings}
    (hdrawn : m.blueprintFailure? settings = none)
    (hwritten : Script.blueprintFailure? (m.outline settings) = none)
    (unwarned : ∀ w ∈ (m.migration settings).warnings, w.kind ≠ .unquotedIdentifier)
    {entity : String × Node} (hentity : entity ∈ m.entities) :
    Validation.isIdentifier entity.1 = true ∧
      ∀ property ∈ entity.2.properties, Validation.isIdentifier property.1 = true := by
  have hnames : nameWarnings entity = [] := by
    rw [List.eq_nil_iff_forall_not_mem]
    intro w hw
    have hmem : w ∈ (m.migration settings).warnings := by
      rw [m.warnings_of_none hdrawn hwritten]
      simp only [List.mem_append, List.mem_flatMap]
      exact .inl (.inl (.inl (.inr ⟨entity, hentity, hw⟩)))
    exact unwarned w hmem (kind_of_mem_nameWarnings hw)
  unfold nameWarnings at hnames
  simpa using hnames

/-! ### The written type and the created one -/

/-- A declared enumeration adds its type. -/
theorem Model.enumType_mem_outline {m : Model} (settings : Settings)
    {entity property : String × Node} {members : List Literal} {k : Nat}
    (hentity : entity ∈ m.entities) (hproperty : property ∈ entity.2.properties)
    (hnests : property.2.Nests members k) :
    ⟨settings.schema ++ "." ++ entity.1 ++ "_" ++ property.1, members⟩
      ∈ (m.outline settings).types := by
  have hmembers := Node.enumMembers?_eq_some_iff.mpr ⟨k, hnests⟩
  refine List.mem_flatMap_of_mem hentity (List.mem_flatMap_of_mem hproperty ?_)
  rw [Blueprint.propertyTypes, hmembers]
  exact List.mem_singleton_self _

theorem Script.createType_mem_plan {schema : String} {b : Blueprint} {t : EnumType}
    (h : t ∈ b.types) : .createType t ∈ plan schema b := by
  simp [plan, h]

theorem Script.createTable_mem_plan {schema : String} {b : Blueprint} {t : Table}
    (h : t ∈ b.tables) : .createTable t ∈ plan schema b := by
  simp [plan, h]

/-- The upper case of the name of an enumeration type, with marks of lists, is the same name without
them exactly when each part of the name keeps its upper case. -/
theorem sameName_unmarked_iff {schema entity name : String} (k : Nat)
    (hschema : ']' ∉ schema.toList) (hentity : ']' ∉ entity.toList) (hname : ']' ∉ name.toList) :
    sameName (unmarked (Text.upper (schema ++ "." ++ entity ++ "_" ++ name ++ Node.marks k)))
        (schema ++ "." ++ entity ++ "_" ++ name) = true
      ↔ ∀ part ∈ [schema, entity, name], Text.KeepsName part := by
  have hbracket : ']' ∉ (schema ++ "." ++ entity ++ "_" ++ name).toList := by
    simp [hschema, hentity, hname]
  have hupper : ']' ∉ (Text.upper (schema ++ "." ++ entity ++ "_" ++ name)).toList := by
    unfold Text.upper
    rw [String.toList_ofList, List.mem_flatMap]
    rintro ⟨c, hc, hbecomes⟩
    rw [Text.eq_bracket_of_mem_upperChar hbecomes] at hc
    exact hbracket hc
  have hsigns : Text.KeepsName "." ∧ Text.KeepsName "_" :=
    ⟨Text.keepsName_of_ascii (by decide), Text.keepsName_of_ascii (by decide)⟩
  rw [Text.upper_append, Text.upper_marks, unmarked_append_marks, unmarked_of_notMem hupper,
    Text.sameName_upper_iff]
  simp [Text.keepsName_append, hsigns, and_assoc]

/--
**A column finds the type of its enumeration exactly when upper case keeps the names.**
-/
theorem typeReferences_match_iff {m : Model} {settings : Settings} {migration : Migration}
    (compiled : m.compile settings = .ok migration)
    (hschema : Validation.isIdentifier settings.schema = true)
    (unwarned : ∀ w ∈ migration.warnings, w.kind ≠ .unquotedIdentifier) :
    Script.Spaced (Script.plan settings.schema migration.blueprint) migration.sql ∧
    ∀ (i j k : Nat) (entity name : String) (properties : List (String × Node))
      (overrides : Overrides) (traits : Traits) (property : Node) (members : List Literal),
      m.entities[i]? = some (entity, .object properties overrides traits) →
      overrides.dataType = none →
      properties[j]? = some (name, property) →
      property.Nests members k →
      ∃ table column,
        migration.blueprint.tables[i]? = some table ∧
        .createTable table ∈ Script.plan settings.schema migration.blueprint ∧
        table.columns[(overrides.id.getD settings.id).idColumns.length + j]? = some column ∧
        Script.columnText column
          = Text.join " " (name :: Text.upper column.type :: Script.constraints column) ∧
        .createType ⟨settings.schema ++ "." ++ entity ++ "_" ++ name, members⟩
          ∈ Script.plan settings.schema migration.blueprint ∧
        (sameName (unmarked (Text.upper column.type))
            (settings.schema ++ "." ++ entity ++ "_" ++ name) = true
          ↔ ∀ part ∈ [settings.schema, entity, name], Text.KeepsName part) := by
  obtain ⟨hdrawn, hwritten, rfl⟩ := Model.of_compiled compiled
  refine ⟨Script.text_spaced _ _, ?_⟩
  intro i j k entity name properties overrides traits property members hentity htype hproperty
    hnests
  have hentity' := List.mem_of_getElem? hentity
  have hproperty' := List.mem_of_getElem? hproperty
  obtain ⟨hname, hnames⟩ := Model.isIdentifier_of_unwarned hdrawn hwritten unwarned hentity'
  have hbrackets := Validation.not_mem_of_isIdentifier (hnames _ hproperty')
  have htype : (Blueprint.declaredColumn settings overrides ⟨settings.schema, entity⟩
      (name, property)).type
        = settings.schema ++ "." ++ entity ++ "_" ++ name ++ Node.marks k := by
    show overrides.dataType.getD _ = _
    rw [htype, Option.getD_none, hnests.columnType_eq]
    rfl
  have hsame := sameName_unmarked_iff k (Validation.not_mem_of_isIdentifier hschema)
    (Validation.not_mem_of_isIdentifier hname) hbrackets
  rw [← htype] at hsame
  have hcreated := Model.enumType_mem_outline settings hentity' hproperty' hnests
  refine ⟨Blueprint.entityTable settings (entity, .object properties overrides traits), _, ?_, ?_,
    Blueprint.entityColumns_getElem? hproperty, rfl, ?_, hsame⟩
  · exact (List.getElem?_map ..).trans (congrArg _ hentity)
  · exact Script.createTable_mem_plan (List.mem_map_of_mem hentity')
  · exact Script.createType_mem_plan hcreated

theorem typeReferences_match_flags : ∃ migration table column,
    flaggedOrder.compile { schema := "Shop" } = .ok migration ∧
    migration.blueprint.tables[0]? = some table ∧ table.columns[2]? = some column ∧
    Text.upper column.type = "SHOP.ORDER_FLAGS[][]" ∧
    sameName (unmarked (Text.upper column.type)) "Shop.order_flags" = true := by
  have hcompiled : flaggedOrder.compile { schema := "Shop" }
      = .ok (flaggedOrder.migration { schema := "Shop" }) :=
    Model.compile_of_none (by decide +kernel)
  obtain ⟨-, hcolumns⟩ := typeReferences_match_iff hcompiled (by decide +kernel)
    (by decide +kernel)
  obtain ⟨table, column, htable, -, hcolumn, -, -, hname⟩ := hcolumns 0 1 2 _ _ _ _ _ _ _
    rfl rfl rfl (.list _ (.list _ (.enumeration _)))
  have hcolumn : table.columns[2]? = some column := hcolumn
  have hwritten : ((flaggedOrder.outline { schema := "Shop" }).tables[0]?.bind
      (·.columns[2]?)).map (Text.upper ·.type) = some "SHOP.ORDER_FLAGS[][]" := by decide +kernel
  have hascii : ∀ part ∈ ["Shop", "order", "flags"],
      part.toList.all (·.toNat < 0x80) = true := by decide +kernel
  have hkeeps := hname.mpr fun part hpart => Text.keepsName_of_ascii (hascii part hpart)
  have htable' : (flaggedOrder.outline { schema := "Shop" }).tables[0]? = some table := htable
  rw [htable', Option.bind_some, hcolumn] at hwritten
  exact ⟨_, table, column, hcompiled, htable, hcolumn, Option.some.inj hwritten, hkeeps⟩

/-- A street whose name has a letter that becomes two. -/
def street : Model :=
  Model.ofList [("straße", .object
    [("zustand", .enumeration [.text "neu"] { type := some "string" })] {} {})]

/-- No name of `street` is remarked on, and yet its column refers to a type that is not created. -/
theorem typeReferences_differ : ∃ migration table column,
    street.compile {} = .ok migration ∧ Validation.isIdentifier (Settings.schema {}) = true ∧
    (∀ w ∈ migration.warnings, w.kind ≠ .unquotedIdentifier) ∧
    migration.blueprint.types = [⟨"api.straße_zustand", [.text "neu"]⟩] ∧
    migration.blueprint.tables[0]? = some table ∧ table.columns[1]? = some column ∧
    Text.upper column.type = "API.STRASSE_ZUSTAND" ∧
    sameName (unmarked (Text.upper column.type)) "api.straße_zustand" = false := by
  have hcompiled : street.compile {} = .ok (street.migration {}) :=
    Model.compile_of_none (by decide +kernel)
  refine ⟨_, _, _, hcompiled, ?_, ?_, ?_, rfl, rfl, ?_, ?_⟩
  · decide +kernel
  · decide +kernel
  · decide +kernel
  · decide +kernel
  · decide +kernel

end Tablewright
