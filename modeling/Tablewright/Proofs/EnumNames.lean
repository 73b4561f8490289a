/-
The names of enumeration types.

The type of a column is named after its entity and its property, with an
underscore between them.  Names may hold underscores, too, so two columns may ask
for one name, and a column for the name of a table.

The part of the name behind the schema is the stem of the declaration.  Types and
tables have distinct names exactly when the stems are distinct and none is the
name of an entity, and then looking up the type of a column finds its own
members.  That is so wherever no entity has the name of another one with an
underscore behind it: the two ways to cut a stem would have to differ in length,
and the longer entity would begin with the shorter one and the underscore.
-/
import Mathlib.Data.List.Nodup
import Tablewright.Proofs.EnumTypes
import Tablewright.Validation

namespace Tablewright

/-! ### When names are distinct

The names of two types differ in their stems alone, so the question is when two
stems are one.  Where entity and property are both the same, so is the
declaration: a model has no two entities of one name, and an entity no two
properties.
-/

/-- Without a capital letter of ASCII, which the server would fold. -/
def Lowercase (s : String) : Prop :=
  s.toList.map Char.toLower = s.toList

instance (s : String) : Decidable (Lowercase s) :=
  inferInstanceAs (Decidable (_ = _))

theorem Lowercase.append {s t : String} (hs : Lowercase s) (ht : Lowercase t) :
    Lowercase (s ++ t) := by
  unfold Lowercase at *
  rw [String.toList_append, List.map_append, hs, ht]

/-- Behind one beginning, folding tells two lower-case texts apart. -/
theorem sameName_append_iff {s t : String} (start : String) (hs : Lowercase s)
    (ht : Lowercase t) : sameName (start ++ s) (start ++ t) = true ↔ s = t := by
  unfold sameName Lowercase at *
  rw [beq_iff_eq, String.toList_append, String.toList_append, List.map_append, List.map_append,
    List.append_cancel_left_eq, hs, ht, String.toList_inj]

namespace Model

/-- No name of an entity or a property has a capital letter. -/
def Lowercase (m : Model) : Prop :=
  ∀ entity ∈ m.entities, Tablewright.Lowercase entity.1 ∧
    ∀ property ∈ entity.2.properties, Tablewright.Lowercase property.1

/-- Different declared enumerations have different stems. -/
def StemsDistinct (m : Model) : Prop :=
  ∀ p ∈ m.enumProperties, ∀ q ∈ m.enumProperties, p.stem = q.stem → p = q

/-- The stem of a declared enumeration is the name of no entity. -/
def StemsFree (m : Model) : Prop :=
  ∀ p ∈ m.enumProperties, ∀ entity ∈ m.entities, p.stem ≠ entity.1

/-- No entity has the name of an entity with an underscore after it, and more. -/
def NamesApart (m : Model) : Prop :=
  ∀ entity ∈ m.entities, ∀ other ∈ m.entities, ¬ (entity.1 ++ "_").toList <+: other.1.toList

theorem mem_enumProperties {m : Model} {p : EnumProperty} :
    p ∈ m.enumProperties ↔ ∃ entity ∈ m.entities, ∃ property ∈ entity.2.properties,
      property.2.enumMembers? = some p.members ∧ entity.1 = p.entity ∧ property.1 = p.property := by
  obtain ⟨entity, property, members⟩ := p
  simp only [enumProperties, List.mem_flatMap, List.mem_filterMap, Option.map_eq_some_iff,
    EnumProperty.mk.injEq]
  constructor
  · rintro ⟨e, he, q, hq, found, hfound, rfl, rfl, rfl⟩
    exact ⟨e, he, q, hq, hfound, rfl, rfl⟩
  · rintro ⟨e, he, q, hq, hfound, rfl, rfl⟩
    exact ⟨e, he, q, hq, members, hfound, rfl, rfl, rfl⟩

/-- A declared enumeration is known by its entity and its property. -/
theorem nodup_enumProperties (m : Model) :
    (m.enumProperties.map fun p => (p.entity, p.property)).Nodup := by
  unfold enumProperties List.Nodup
  rw [List.pairwise_map, List.pairwise_flatMap]
  constructor
  · intro entity hentity
    have hnames := nodup_properties hentity
    rw [List.Nodup, List.pairwise_map] at hnames
    rw [List.pairwise_filterMap]
    refine hnames.imp ?_
    intro property other hne p hp q hq heq
    obtain ⟨_, _, rfl⟩ := Option.map_eq_some_iff.mp hp
    obtain ⟨_, _, rfl⟩ := Option.map_eq_some_iff.mp hq
    exact hne (Prod.mk.inj heq).2
  · have hnames := m.distinct
    rw [List.Nodup, List.pairwise_map] at hnames
    refine hnames.imp ?_
    intro entity other hne p hp q hq heq
    obtain ⟨_, _, hp⟩ := List.mem_filterMap.mp hp
    obtain ⟨_, _, rfl⟩ := Option.map_eq_some_iff.mp hp
    obtain ⟨_, _, hq⟩ := List.mem_filterMap.mp hq
    obtain ⟨_, _, rfl⟩ := Option.map_eq_some_iff.mp hq
    exact hne (Prod.mk.inj heq).1

theorem lowercase_stem {m : Model} (lower : m.Lowercase) {p : EnumProperty}
    (h : p ∈ m.enumProperties) : Tablewright.Lowercase p.stem := by
  obtain ⟨entity, hentity, property, hproperty, -, hname, hproperty'⟩ := mem_enumProperties.mp h
  have hnames := lower entity hentity
  rw [EnumProperty.stem, ← hname, ← hproperty']
  exact (hnames.1.append (by decide)).append (hnames.2 property hproperty)

/-! ### Stems that are apart -/

/-- Where two texts are cut at an underscore in two places, the part before the first underscore
begins the part before the second, with the underscore. -/
theorem prefix_of_append_eq {a b c d : List Char} (h : a ++ '_' :: b = c ++ '_' :: d) :
    a = c ∨ (a ++ ['_']) <+: c ∨ (c ++ ['_']) <+: a := by
  rcases List.append_eq_append_iff.mp h with ⟨rest, hc, hb⟩ | ⟨rest, ha, hd⟩
  · cases rest with
    | nil => exact Or.inl (by simpa using hc.symm)
    | cons first rest =>
        obtain ⟨rfl, -⟩ := List.cons.inj hb
        exact Or.inr (Or.inl ⟨rest, by rw [hc, List.append_assoc]; rfl⟩)
  · cases rest with
    | nil => exact Or.inl (by simpa using ha)
    | cons first rest =>
        obtain ⟨rfl, -⟩ := List.cons.inj hd
        exact Or.inr (Or.inr ⟨rest, by rw [ha, List.append_assoc]; rfl⟩)

theorem toList_stem (p : EnumProperty) :
    p.stem.toList = p.entity.toList ++ '_' :: p.property.toList := by
  rw [EnumProperty.stem, String.toList_append, String.toList_append, List.append_assoc]
  rfl

theorem NamesApart.stemsDistinct {m : Model} (apart : m.NamesApart) : m.StemsDistinct := by
  intro p hp q hq hstem
  obtain ⟨entity, hentity, -, -, -, hpentity, -⟩ := mem_enumProperties.mp hp
  obtain ⟨other, hother, -, -, -, hqentity, -⟩ := mem_enumProperties.mp hq
  have htext : p.entity.toList ++ '_' :: p.property.toList
      = q.entity.toList ++ '_' :: q.property.toList := by
    rw [← toList_stem, ← toList_stem, hstem]
  have hsame : p.entity = q.entity := by
    rcases prefix_of_append_eq htext with heq | hprefix | hprefix
    · exact String.toList_inj.mp heq
    · refine absurd ?_ (apart entity hentity other hother)
      rw [hpentity, hqentity, String.toList_append]
      exact hprefix
    · refine absurd ?_ (apart other hother entity hentity)
      rw [hpentity, hqentity, String.toList_append]
      exact hprefix
  rw [hsame, List.append_cancel_left_eq] at htext
  have hproperty : p.property = q.property := String.toList_inj.mp (List.cons.inj htext).2
  exact List.inj_on_of_nodup_map m.nodup_enumProperties hp hq
    (Prod.ext hsame hproperty)

theorem NamesApart.stemsFree {m : Model} (apart : m.NamesApart) : m.StemsFree := by
  intro p hp other hother hstem
  obtain ⟨entity, hentity, -, -, -, hpentity, -⟩ := mem_enumProperties.mp hp
  refine apart entity hentity other hother ⟨p.property.toList, ?_⟩
  rw [← hstem, EnumProperty.stem, hpentity, ← String.toList_append]

end Model

/-! ### Distinct names -/

theorem entry_name_inj {schema : String} {p q : EnumProperty} :
    (p.entry schema).name = (q.entry schema).name ↔ p.stem = q.stem := by
  unfold EnumProperty.entry
  rw [← String.toList_inj, ← String.toList_inj]
  simp only [String.toList_append, List.append_cancel_left_eq]

theorem entry_name_eq_table_iff {settings : Settings} {p : EnumProperty} {entity : String × Node} :
    (p.entry settings.schema).name = (Blueprint.entityTable settings entity).name
      ↔ p.stem = entity.1 := by
  show settings.schema ++ "." ++ p.stem = settings.schema ++ "." ++ entity.1 ↔ _
  rw [← String.toList_inj, ← String.toList_inj]
  simp only [String.toList_append, List.append_cancel_left_eq]

/-- Where stems are distinct, looking up the type of a declared enumeration finds its own. -/
theorem find?_entry {schema : String} {p : EnumProperty} :
    ∀ {l : List EnumProperty}, p ∈ l → (∀ q ∈ l, Lowercase q.stem) →
      (∀ q ∈ l, q.stem = p.stem → q = p) →
      (l.map (·.entry schema)).find? (fun t => sameName t.name (p.entry schema).name)
        = some (p.entry schema) := by
  intro l
  induction l with
  | nil => intro hp; exact absurd hp (by simp)
  | cons q rest ih =>
      intro hp lower distinct
      have hfold : sameName (q.entry schema).name (p.entry schema).name = true
          ↔ q.stem = p.stem :=
        sameName_append_iff (schema ++ ".") (lower q (by simp)) (lower p hp)
      rw [List.map_cons, List.find?_cons]
      by_cases hq : q.stem = p.stem
      · rw [hfold.mpr hq, distinct q (by simp) hq]
      · rw [Bool.eq_false_iff.mpr (mt hfold.mp hq)]
        have hrest : p ∈ rest := by
          rcases List.mem_cons.mp hp with rfl | hrest
          · exact absurd rfl hq
          · exact hrest
        exact ih hrest (fun r hr => lower r (by simp [hr]))
          (fun r hr => distinct r (by simp [hr]))

/--
**The names of types and tables are distinct exactly when the stems are.**
-/
theorem enumTypes_distinct_iff {m : Model} {settings : Settings} {log rest : Log} {b : Blueprint}
    (drawn : (m.blueprint settings).from log = (.ok b, rest)) (lower : m.Lowercase) :
    ((b.types.map (·.name)).Nodup ↔ m.StemsDistinct) ∧
    ((∀ type ∈ b.types, ∀ table ∈ b.tables, type.name ≠ table.name) ↔ m.StemsFree) ∧
    (m.StemsDistinct → ∀ p ∈ m.enumProperties,
      b.enumType? (settings.schema ++ "." ++ p.entity ++ "_" ++ p.property)
        = some (p.entry settings.schema)) ∧
    (m.NamesApart → m.StemsDistinct ∧ m.StemsFree) := by
  obtain rfl := Model.eq_outline drawn
  have htypes := m.outline_types settings
  refine ⟨?_, ?_, ?_, fun apart => ⟨apart.stemsDistinct, apart.stemsFree⟩⟩
  · rw [htypes, List.map_map]
    constructor
    · intro hnodup p hp q hq hstem
      exact List.inj_on_of_nodup_map hnodup hp hq (entry_name_inj.mpr hstem)
    · intro hdistinct
      refine List.Nodup.map_on ?_ m.nodup_enumProperties.of_map
      intro p hp q hq hname
      exact hdistinct p hp q hq (entry_name_inj.mp hname)
  · rw [htypes]
    constructor
    · intro hne p hp entity hentity hstem
      exact hne _ (List.mem_map_of_mem hp) _ (List.mem_map_of_mem hentity)
        (entry_name_eq_table_iff.mpr hstem)
    · intro hfree type htype table htable
      obtain ⟨p, hp, rfl⟩ := List.mem_map.mp htype
      obtain ⟨entity, hentity, rfl⟩ := List.mem_map.mp htable
      exact fun hname => hfree p hp entity hentity (entry_name_eq_table_iff.mp hname)
  · intro hdistinct p hp
    rw [show settings.schema ++ "." ++ p.entity ++ "_" ++ p.property
      = (p.entry settings.schema).name by
        simp [EnumProperty.entry, EnumProperty.stem, String.append_assoc]]
    unfold Blueprint.enumType?
    rw [htypes]
    exact find?_entry hp (fun q hq => Model.lowercase_stem lower hq)
      (fun q hq hstem => hdistinct q hq p hp hstem)

/-- Two entities with a state each. -/
def accounts : Model :=
  Model.ofList [
    ("user", .object [("state", .enumeration [.text "new", .text "gone"] { type := some "string" })]
      {} {}),
    ("order", .object [("state", .enumeration [.text "paid"] { type := some "string" })] {} {})]

theorem enumTypes_distinct_accounts : ∃ b, (accounts.blueprint {}).from [] = (.ok b, []) ∧
    (b.types.map (·.name)).Nodup ∧
    b.enumType? "api.order_state" = some ⟨"api.order_state", [.text "paid"]⟩ := by
  have drawn : (accounts.blueprint {}).from [] = (.ok (accounts.outline {}), []) := by rfl
  have lower : accounts.Lowercase := by
    unfold Model.Lowercase
    decide +kernel
  have apart : accounts.NamesApart := by
    unfold Model.NamesApart
    decide +kernel
  obtain ⟨hnodup, -, hfind, hapart⟩ := enumTypes_distinct_iff drawn lower
  obtain ⟨hdistinct, -⟩ := hapart apart
  have hstate : (⟨"order", "state", [.text "paid"]⟩ : EnumProperty) ∈ accounts.enumProperties := by
    decide +kernel
  have hname : "api.order_state" = "api" ++ "." ++ "order" ++ "_" ++ "state" := by decide
  refine ⟨_, drawn, hnodup.mpr hdistinct, ?_⟩
  rw [hname]
  exact (hfind hdistinct _ hstate).trans (by decide +kernel)

/-! ### When they are not -/

/-- Two columns that ask for one type, and a third that asks for the name of a table. -/
def clashing : Model :=
  Model.ofList [
    ("a", .object
      [("b_c", .enumeration [.text "x"] { type := some "string" }),
        ("b", .enumeration [.text "z"] { type := some "string" })] {} {}),
    ("a_b", .object [("c", .enumeration [.text "y"] { type := some "string" })] {} {})]

/-- The names of `clashing` are plain and in lower case, and yet the type of a column is found with
the members of another one. -/
theorem enumTypes_clash :
    (∀ entity ∈ clashing.entities, Validation.isIdentifier entity.1 = true ∧ Lowercase entity.1 ∧
      ∀ property ∈ entity.2.properties,
        Validation.isIdentifier property.1 = true ∧ Lowercase property.1) ∧
    ∃ b, (clashing.blueprint {}).from [] = (.ok b, []) ∧
      ¬ (b.types.map (·.name)).Nodup ∧
      (∃ type ∈ b.types, ∃ table ∈ b.tables, type.name = table.name) ∧
      (∃ table ∈ b.tables, table.name = "api.a_b" ∧
        (table.column? "c").map (·.type) = some "api.a_b_c") ∧
      b.enumType? "api.a_b_c" = some ⟨"api.a_b_c", [.text "x"]⟩ ∧
      (⟨"a_b", "c", [.text "y"]⟩ : EnumProperty) ∈ clashing.enumProperties := by
  have drawn : (clashing.blueprint {}).from [] = (.ok (clashing.outline {}), []) := by rfl
  refine ⟨by decide +kernel, clashing.outline {}, drawn, ?_, ?_, ?_, ?_, ?_⟩
  · decide +kernel
  · decide +kernel
  · decide +kernel
  · decide +kernel
  · decide +kernel

end Tablewright
