/-
The comments of a blueprint.

A description that holds more than white space becomes a comment, word for word:
one on the table where it describes an entity, and one on the column where it
describes a property.  A comment comes about before its table does, and its target
is put together from names apart from the names of tables and columns.  Still no
target is left hanging: the table of an entity has a column for every property, so
whatever is described has a place.

A script sets its comments behind everything else.  So the table that a comment is
on has been created by then, and what was not blank when the comment was made is
not blank when it is written.
-/
import Tablewright.Proofs.Blueprint
import Tablewright.Proofs.Script.Spacing

namespace Tablewright

/-! ### Descriptions -/

/-- The node is described by this text, which holds a character other than white space. -/
def Node.DescribedBy (n : Node) (content : String) : Prop :=
  n.traits.description = some content ∧ ∃ c ∈ content.toList, Text.isBlankChar c = false

theorem Text.isBlank_eq_false_iff {s : String} :
    Text.isBlank s = false ↔ ∃ c ∈ s.toList, Text.isBlankChar c = false := by
  rw [isBlank, List.all_eq_false]
  simp

theorem Node.description?_eq_some_iff {n : Node} {content : String} :
    n.description? = some content ↔ n.DescribedBy content := by
  rw [description?, Option.filter_eq_some_iff, Bool.not_eq_true', Text.isBlank_eq_false_iff]
  rfl

/-- A description of an entity or of a property of it. -/
structure Note where
  entity : String
  /-- The property, unless the entity itself is described. -/
  property : Option String
  content : String
deriving DecidableEq

/-- The comment that the note becomes. -/
def Note.comment (schema : String) (note : Note) : Comment :=
  match note.property with
  | none => ⟨.table, schema ++ "." ++ note.entity, note.content⟩
  | some property => ⟨.column, schema ++ "." ++ note.entity ++ "." ++ property, note.content⟩

namespace Model

/-- The descriptions that are not blank: for every entity its own and then those of its properties,
in the order of the document. -/
def notes (m : Model) : List Note :=
  m.entities.flatMap fun entity =>
    (entity.2.description?.map fun content => ⟨entity.1, none, content⟩).toList
    ++ entity.2.properties.filterMap fun property =>
      property.2.description?.map fun content => ⟨entity.1, some property.1, content⟩

theorem outline_comments (m : Model) (settings : Settings) :
    (m.outline settings).comments = m.notes.map (·.comment settings.schema) := by
  have hproperties : ∀ (entity : String) (properties : List (String × Node)),
      (properties.flatMap fun property =>
        Blueprint.propertyComments ⟨settings.schema, entity, property.1⟩ property.2)
      = (properties.filterMap fun property => property.2.description?.map fun content =>
          (⟨entity, some property.1, content⟩ : Note)).map (·.comment settings.schema) := by
    intro entity properties
    induction properties with
    | nil => rfl
    | cons property rest ih =>
        rw [List.flatMap_cons, ih, List.filterMap_cons, Blueprint.propertyComments]
        cases property.2.description? with
        | none => rfl
        | some content => rfl
  have hentity : ∀ entity, Blueprint.entityComments settings entity
      = ((entity.2.description?.map fun content => (⟨entity.1, none, content⟩ : Note)).toList
        ++ entity.2.properties.filterMap fun property => property.2.description?.map fun content =>
          (⟨entity.1, some property.1, content⟩ : Note)).map (·.comment settings.schema) := by
    intro entity
    rw [List.map_append, ← hproperties, Blueprint.entityComments]
    cases entity.2.description? with
    | none => rfl
    | some content => rfl
  show m.entities.flatMap (Blueprint.entityComments settings) = _
  rw [notes, List.map_flatMap]
  exact congrArg (m.entities.flatMap ·) (funext hentity)

end Model

/-! ### Targets -/

/-- The comment is on this table, or on a column that the table has. -/
inductive Comment.On (t : Table) : Comment → Prop
  | table (content : String) : On t ⟨.table, t.name, content⟩
  | column {c : Column} (h : c ∈ t.columns) (content : String) :
      On t ⟨.column, t.name ++ "." ++ c.name, content⟩

/-- Every property of an entity has a column. -/
theorem Blueprint.exists_column (settings : Settings) {entity property : String × Node}
    (h : property ∈ entity.2.properties) :
    ∃ c ∈ (entityTable settings entity).columns, c.name = property.1 := by
  obtain ⟨j, hj⟩ := List.mem_iff_getElem?.mp h
  exact ⟨_, List.mem_of_getElem? (entityColumns_getElem? hj), rfl⟩

namespace Model

variable {m : Model} {settings : Settings}

/-- A note is about an entity or about one of its properties, and what it says is not blank. -/
theorem of_mem_notes {note : Note} (h : note ∈ m.notes) :
    ∃ entity ∈ m.entities, note.entity = entity.1 ∧
      ((note.property = none ∧ entity.2.DescribedBy note.content) ∨
        ∃ property ∈ entity.2.properties, note.property = some property.1 ∧
          property.2.DescribedBy note.content) := by
  obtain ⟨entity, hentity, h⟩ := List.mem_flatMap.mp h
  refine ⟨entity, hentity, ?_⟩
  simp only [List.mem_append, Option.mem_toList, List.mem_filterMap, Option.map_eq_some_iff,
    Node.description?_eq_some_iff] at h
  rcases h with ⟨content, hcontent, rfl⟩ | ⟨property, hproperty, content, hcontent, rfl⟩
  · exact ⟨rfl, Or.inl ⟨rfl, hcontent⟩⟩
  · exact ⟨rfl, Or.inr ⟨property, hproperty, rfl, hcontent⟩⟩

/-- Every comment of a blueprint is on one of its tables. -/
theorem exists_on {c : Comment} (h : c ∈ (m.outline settings).comments) :
    ∃ t ∈ (m.outline settings).tables, c.On t := by
  rw [outline_comments] at h
  obtain ⟨⟨name, about, content⟩, hnote, rfl⟩ := List.mem_map.mp h
  obtain ⟨entity, hentity, hname, habout⟩ := of_mem_notes hnote
  refine ⟨Blueprint.entityTable settings entity, List.mem_map_of_mem hentity, ?_⟩
  obtain rfl : name = entity.1 := hname
  rcases habout with ⟨hnone, -⟩ | ⟨property, hproperty, hsome, -⟩
  · obtain rfl : about = none := hnone
    exact .table content
  · obtain rfl : about = some property.1 := hsome
    obtain ⟨column, hcolumn, hcolumnName⟩ := Blueprint.exists_column settings hproperty
    have hon : Comment.On (Blueprint.entityTable settings entity) ⟨.column, _ ++ "." ++ column.name,
      content⟩ := .column hcolumn content
    rw [hcolumnName] at hon
    exact hon

/-- No comment of a blueprint is blank. -/
theorem isBlank_of_mem_comments {c : Comment} (h : c ∈ (m.outline settings).comments) :
    Text.isBlank c.content = false := by
  rw [outline_comments] at h
  obtain ⟨note, hnote, rfl⟩ := List.mem_map.mp h
  have hcontent : (note.comment settings.schema).content = note.content := by
    unfold Note.comment
    cases note.property with
    | none => rfl
    | some property => rfl
  rw [hcontent, Text.isBlank_eq_false_iff]
  obtain ⟨_, -, -, ⟨-, hdescribed⟩ | ⟨_, -, -, hdescribed⟩⟩ := of_mem_notes hnote
  · exact hdescribed.2
  · exact hdescribed.2

theorem commentWarnings_outline {c : Comment} (h : c ∈ (m.outline settings).comments) :
    Script.commentWarnings c = [] := by
  rw [Script.commentWarnings, isBlank_of_mem_comments h]
  rfl

end Model

/-! ### Comments in a script -/

namespace Script

variable {b : Blueprint}

/-- Writing a script warns of blank comments only where there are some. -/
theorem kind_of_mem_blueprintWarnings (h : ∀ c ∈ b.comments, commentWarnings c = []) {w : Warning}
    (hw : w ∈ blueprintWarnings b) : w.kind ≠ .blankComment := by
  rw [blueprintWarnings, List.flatMap_eq_nil_iff.mpr h] at hw
  have hnothing : Log.past (blueprintFailure? b) [] = [] := by
    cases blueprintFailure? b <;> rfl
  rw [hnothing, List.append_nil] at hw
  rcases List.mem_append.mp hw with hw | hw
  · obtain ⟨t, -, hw⟩ := List.mem_flatMap.mp hw
    unfold typeWarnings at hw
    split at hw
    · rw [List.mem_singleton.mp hw]
      nofun
    · exact absurd hw (by simp)
  · obtain ⟨t, -, hw⟩ := Log.exists_of_mem_upTo hw
    unfold tableWarnings at hw
    split at hw
    · rw [List.mem_singleton.mp hw]
      nofun
    · exact absurd hw (by simp)

/-- In this text, the statement that sets the comment stands behind the one that creates the table,
and these statements are all that follows it. -/
def SetsBehind (sql : String) (t : Table) (c : Comment) (later : List Statement) : Prop :=
  ∃ front between back, Spaced later back ∧
    sql = front ++ (Statement.createTable t).written ++ between
      ++ (Statement.setComment c).written ++ back

/-- A script creates every table before it sets any comment. -/
theorem setsBehind_text {schemaName : String} {t : Table} (ht : t ∈ b.tables)
    {earlier later : List Comment} {c : Comment} (hc : b.comments = earlier ++ c :: later) :
    SetsBehind (text schemaName b) t c (later.map .setComment ++ [.closing]) := by
  obtain ⟨before, after, htables⟩ := List.append_of_mem ht
  have hplan : plan schemaName b
      = ([.opening, .createSchema schemaName] ++ b.types.map .createType
          ++ before.map .createTable)
        ++ (.createTable t :: (after.map .createTable ++ earlier.map .setComment))
        ++ (.setComment c :: (later.map .setComment ++ [.closing])) := by
    simp [plan, htables, hc]
  have hspaced := text_spaced schemaName b
  rw [hplan] at hspaced
  obtain ⟨start, back, hsql, hstart, hback⟩ := hspaced.split
  obtain ⟨front, middle, rfl, -, hmiddle⟩ := hstart.split
  obtain ⟨gap, tail, rfl, -, -⟩ := hmiddle.exists_cons
  obtain ⟨gap', rest, rfl, -, hrest⟩ := hback.exists_cons
  refine ⟨front ++ gap, tail ++ gap', rest, hrest, ?_⟩
  rw [hsql]
  simp only [String.append_assoc]

end Script

/--
**The comments are the descriptions that are not blank, each on a table or a column that there is,
and a script sets them behind the tables.**
-/
theorem comments_exact {m : Model} {settings : Settings} {log rest : Log} {b : Blueprint}
    (drawn : (m.blueprint settings).from log = (.ok b, rest)) :
    b.comments = m.notes.map (·.comment settings.schema) ∧
    (∀ (n : Node) (content : String), n.description? = some content ↔ n.DescribedBy content) ∧
    (∀ c ∈ b.comments, ∃ t ∈ b.tables, c.On t) ∧
    ∀ (schemaName : String) (before : Log), ∃ result added,
      (Script.ofBlueprint schemaName b).from before = (result, before ++ added) ∧
      (∀ w ∈ added, w.kind ≠ .blankComment) ∧
      ∀ sql, result = .ok sql → ∀ earlier c later, b.comments = earlier ++ c :: later →
        ∃ t ∈ b.tables, c.On t ∧
          Script.SetsBehind sql t c (later.map .setComment ++ [.closing]) := by
  obtain rfl := Model.eq_outline drawn
  refine ⟨m.outline_comments settings, fun _ _ => Node.description?_eq_some_iff,
    fun _ => Model.exists_on, ?_⟩
  intro schemaName before
  refine ⟨_, _, Script.ofBlueprint_gives schemaName _ before, ?_, ?_⟩
  · intro w hw
    exact Script.kind_of_mem_blueprintWarnings (fun _ => Model.commentWarnings_outline) hw
  · intro sql hsql earlier c later hc
    obtain ⟨-, rfl⟩ := barring_eq_ok_iff.mp hsql
    have hmem : c ∈ (m.outline settings).comments := by
      rw [hc]
      simp
    obtain ⟨t, ht, hon⟩ := Model.exists_on hmem
    exact ⟨t, ht, hon, Script.setsBehind_text ht hc⟩

/-- A member of a club, with a description of one of its properties that is blank. -/
def describedMember : Model :=
  Model.ofList [("member", .object
    [("name", .scalar none { type := some "string", description := some " full name " }),
      ("since", .scalar (some "int2") { type := some "integer", description := some " \t" })]
    {} { description := some "who pays" })]

theorem comments_exact_member : ∃ b sql t,
    (describedMember.blueprint {}).from [] = (.ok b, []) ∧
    (Script.ofBlueprint "club" b).from [] = (.ok sql, []) ∧
    b.comments = [⟨.table, "api.member", "who pays"⟩,
      ⟨.column, "api.member.name", " full name "⟩] ∧
    Comment.On t ⟨.column, "api.member.name", " full name "⟩ ∧
    Script.SetsBehind sql t ⟨.column, "api.member.name", " full name "⟩ [.closing] := by
  have drawn : (describedMember.blueprint {}).from [] = (.ok (describedMember.outline {}), []) := by
    rfl
  obtain ⟨hcomments, -, -, hwritten⟩ := comments_exact drawn
  have hlist : (describedMember.outline {}).comments = [⟨.table, "api.member", "who pays"⟩,
      ⟨.column, "api.member.name", " full name "⟩] := hcomments.trans (by decide +kernel)
  have hfailure : Script.blueprintFailure? (describedMember.outline {}) = none := by decide +kernel
  have hwarnings : Script.blueprintWarnings (describedMember.outline {}) = [] := by decide +kernel
  have hrun : (Script.ofBlueprint "club" (describedMember.outline {})).from []
      = (.ok (Script.text "club" (describedMember.outline {})), []) := by
    rw [Script.ofBlueprint_gives, hfailure, hwarnings]
    rfl
  obtain ⟨result, added, hresult, -, hsets⟩ := hwritten "club" []
  obtain ⟨rfl, -⟩ := Prod.mk.inj (hrun.symm.trans hresult)
  obtain ⟨t, -, hon, hbehind⟩ := hsets _ rfl [⟨.table, "api.member", "who pays"⟩] _ [] hlist
  exact ⟨_, _, t, drawn, hrun, hlist, hon, hbehind⟩

end Tablewright
