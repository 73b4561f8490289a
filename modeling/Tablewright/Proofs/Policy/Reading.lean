/-
Which values are policies.

A policy is written as a flag, as a tag, as a column or as a list of columns, and the
kind of the value tells which of these it is meant to be.  A column is written as an
object.  The names of its fields are each given once at most, with a value of the kind
that the field has, or none; any other name may be given as often as one likes, with
any value.  What is not given is empty in the column, or not set.

A list is one of columns only when all of its items are, wherever the odd one stands.
The fields of a column in a list of their own would do for a record elsewhere, but not
here: an item must be an object.
-/
import Tablewright.Policy
import Tablewright.Proofs.Document.Acceptance

namespace Tablewright

open Document

/-! ### Columns written as objects -/

namespace Column

/-- The names of the fields of a column. -/
def fieldNames : List String :=
  ["name", "type", "primaryKey", "nullable", "unique", "default", "check"]

/-- The members of an object describe a column: each field is given once at most, with a value of
its kind, and all but the name and the type may be empty. -/
structure Described (members : List (String × Value)) : Prop where
  once : ((members.map Prod.fst).filter (· ∈ fieldNames)).Nodup
  texts : ∀ name ∈ ["name", "type"], ∀ v, (name, v) ∈ members → v.IsText
  flags : ∀ name ∈ ["primaryKey", "nullable", "unique"], ∀ v, (name, v) ∈ members →
    v = .null ∨ v.IsFlag
  default : ∀ v, ("default", v) ∈ members → v = .null ∨ v.IsFlag ∨ v.IsNumber ∨ v.IsText
  check : ∀ v, ("check", v) ∈ members → v = .null ∨ v.IsText

/-- The column that the members of an object describe. -/
def ofObject (members : List (String × Value)) : Column where
  name := ((members.lookup "name").bind Value.text?).getD ""
  type := ((members.lookup "type").bind Value.text?).getD ""
  primaryKey := (members.lookup "primaryKey").bind Value.flag?
  nullable := (members.lookup "nullable").bind Value.flag?
  unique := (members.lookup "unique").bind Value.flag?
  default := (members.lookup "default").bind Literal.ofValue?
  check := (members.lookup "check").bind Value.text?

/-- The part of a column of this name is read from these trees. -/
def Takes (name : String) (t : Tree) : Prop :=
  (name ∈ ["name", "type"] → ∃ text, t.text = .ok text) ∧
  (name ∈ ["primaryKey", "nullable", "unique"] → ∃ flag, t.optional Tree.flag = .ok flag) ∧
  (name = "default" → ∃ value, t.optional Literal.read = .ok value) ∧
  (name = "check" → ∃ text, t.optional Tree.text = .ok text)

theorem plain_layout : layout.Plain where
  aliases := by simp [layout]
  distinct := by decide

theorem takes_of_mem_layout : ∀ field ∈ layout.fields, field.Takes (Takes field.name) := by
  intro field hfield
  simp only [layout, List.mem_cons, List.not_mem_nil, or_false] at hfield
  rcases hfield with rfl | rfl | rfl | rfl | rfl | rfl | rfl
  all_goals
    intro value draft
    refine (Field.takes_put value draft).trans ?_
    simp [Takes]

/-- Each part of a column is set by one field only. -/
theorem layout_holds :
    layout.Holds 0 Column.name Tree.text ∧
    layout.Holds 1 Column.type Tree.text ∧
    layout.Holds 2 Column.primaryKey (·.optional Tree.flag) ∧
    layout.Holds 3 Column.nullable (·.optional Tree.flag) ∧
    layout.Holds 4 Column.unique (·.optional Tree.flag) ∧
    layout.Holds 5 Column.default (·.optional Literal.read) ∧
    layout.Holds 6 Column.check (·.optional Tree.text) := by
  refine ⟨?_, ?_, ?_, ?_, ?_, ?_, ?_⟩
  all_goals
    refine Layout.holds_of_eraseIdx rfl (Field.sets_put fun _ _ => rfl) ?_
    intro field hfield
    simp only [layout, List.eraseIdx, List.mem_cons, List.not_mem_nil, or_false] at hfield
    rcases hfield with rfl | rfl | rfl | rfl | rfl | rfl
    all_goals exact Field.keeps_put fun _ _ => rfl

end Column

/-! ### What the parts of a column are read from -/

theorem Literal.ofValue?_eq_some_iff {v : Value} {l : Literal} :
    Literal.ofValue? v = some l ↔ v = l.toValue := by
  cases v with
  | scalar s => cases s <;> cases l <;> simp [Literal.ofValue?, Literal.toValue]
  | list | map => cases l <;> simp [Literal.ofValue?, Literal.toValue]

theorem Literal.read_toTree_iff {v : Value} {l : Literal} :
    Literal.read v.toTree = .ok l ↔ v = l.toValue := by
  refine Tree.choose_toTree_iff (fun _ _ => Literal.ofValue?_eq_some_iff) fun l => ?_
  cases l <;> exact ⟨_, rfl, nofun⟩

namespace Document.Value

variable {v : Value}

theorem exists_text_iff : (∃ text, v.toTree.text = .ok text) ↔ v.IsText :=
  exists_congr fun _ => text_toTree_iff

theorem exists_flag_iff : (∃ flag, v.toTree.flag = .ok flag) ↔ v.IsFlag :=
  exists_congr fun _ => flag_toTree_iff

theorem exists_literal_iff :
    (∃ l, Literal.read v.toTree = .ok l) ↔ v.IsFlag ∨ v.IsNumber ∨ v.IsText := by
  simp only [Literal.read_toTree_iff]
  constructor
  · rintro ⟨flag | number | text, rfl⟩
    · exact .inl ⟨flag, rfl⟩
    · exact .inr (.inl ⟨number, rfl⟩)
    · exact .inr (.inr ⟨text, rfl⟩)
  · rintro (⟨flag, rfl⟩ | ⟨number, rfl⟩ | ⟨text, rfl⟩)
    · exact ⟨.flag flag, rfl⟩
    · exact ⟨.number number, rfl⟩
    · exact ⟨.text text, rfl⟩

theorem exists_optional_iff {α : Type} {read : Tree → Read α} :
    (∃ held, v.toTree.optional read = .ok held) ↔ v = .null ∨ ∃ a, read v.toTree = .ok a := by
  rw [Tree.optional_isOk_iff, isAbsent_toTree_iff]
  rfl

end Document.Value

namespace Column

variable {members : List (String × Value)} {c : Column}

theorem mem_fieldNames :
    ["name", "type"] ⊆ fieldNames ∧ ["primaryKey", "nullable", "unique"] ⊆ fieldNames ∧
      "default" ∈ fieldNames ∧ "check" ∈ fieldNames := by
  decide

/-- An object describes a column exactly where its members are taken. -/
theorem described_iff : Described members ↔
    ((members.map Prod.fst).filter (· ∈ fieldNames)).Nodup ∧
    ∀ member ∈ members, member.1 ∈ fieldNames → Takes member.1 member.2.toTree := by
  simp only [Takes, Value.exists_text_iff, Value.exists_optional_iff, Value.exists_flag_iff,
    Value.exists_literal_iff]
  constructor
  · intro h
    refine ⟨h.once, fun member hmember _ => ⟨fun hname => ?_, fun hname => ?_, ?_, ?_⟩⟩
    · exact h.texts _ hname _ hmember
    · exact h.flags _ hname _ hmember
    · intro hname
      exact h.default _ (hname ▸ hmember)
    · intro hname
      exact h.check _ (hname ▸ hmember)
  · rintro ⟨honce, htaken⟩
    constructor
    · exact honce
    · intro name hname v hv
      exact (htaken _ hv (mem_fieldNames.1 hname)).1 hname
    · intro name hname v hv
      exact (htaken _ hv (mem_fieldNames.2.1 hname)).2.1 hname
    · exact fun v hv => (htaken _ hv mem_fieldNames.2.2.1).2.2.1 rfl
    · exact fun v hv => (htaken _ hv mem_fieldNames.2.2.2).2.2.2 rfl

theorem exists_read_object_iff (json : ∀ member ∈ members, member.2.IsJson) :
    (∃ c, read (Value.object members).toTree = .ok c) ↔ Described members := by
  have hskip : ∀ member ∈ members.map fun member => (member.1, member.2.toTree),
      member.2.skip = .ok () :=
    List.forall_mem_map.mpr fun member hmember => (json member hmember).skip_toTree
  have hnames : layout.fields.map Field.name = fieldNames := rfl
  rw [Value.toTree_object, described_iff]
  refine (plain_layout.read_object_isOk_iff takes_of_mem_layout hskip).trans ?_
  rw [hnames, List.map_map, List.forall_mem_map]
  rfl

/-- What an object says of a part that may be empty is found under its name. -/
theorem eq_lookup {α : Type} {name : String} {read : Tree → Read α} {kind? : Value → Option α}
    {held : Option α} (h : Says members name (·.toTree.optional read) none held)
    (hkind : ∀ v a, read v.toTree = .ok a → kind? v = some a) (hnull : kind? .null = none) :
    held = (members.lookup name).bind kind? := by
  rcases h.lookup_cases with ⟨hnone, rfl⟩ | ⟨v, hv, hread⟩
  · rw [hnone]
    rfl
  · rw [hv, Option.bind_some]
    cases held with
    | none =>
        rw [Tree.optional_eq_none_iff, Value.isAbsent_toTree_iff] at hread
        rw [hread]
        exact hnull.symm
    | some a => exact (hkind v a (Tree.optional_eq_some_iff.mp hread).2).symm

/-- A name that is left out is empty. -/
theorem eq_lookup_text {name : String} {held : String}
    (h : Says members name (·.toTree.text) "" held) :
    held = ((members.lookup name).bind Value.text?).getD "" := by
  rcases h.lookup_cases with ⟨hnone, rfl⟩ | ⟨v, hv, hread⟩
  · rw [hnone]
    rfl
  · rw [hv, Value.text_toTree_iff.mp hread]
    rfl

theorem eq_ofObject_of_read (h : read (Value.object members).toTree = .ok c) :
    c = ofObject members := by
  rw [Value.toTree_object] at h
  obtain ⟨given, hstored⟩ := Layout.read_object_eq_ok_iff.mp h
  obtain ⟨hname, htype, hprimaryKey, hnullable, hunique, hdefault, hcheck⟩ := layout_holds
  have htext (v : Value) (text : String) (hv : v.toTree.text = .ok text) : v.text? = some text :=
    Value.text_toTree_iff.mp hv ▸ rfl
  have hflag (v : Value) (flag : Bool) (hv : v.toTree.flag = .ok flag) : v.flag? = some flag :=
    Value.flag_toTree_iff.mp hv ▸ rfl
  have hliteral (v : Value) (l : Literal) (hv : Literal.read v.toTree = .ok l) :
      Literal.ofValue? v = some l :=
    Literal.ofValue?_eq_some_iff.mpr (Literal.read_toTree_iff.mp hv)
  have hnames := eq_lookup_text (hname.of_stored plain_layout rfl hstored).of_map
  have htypes := eq_lookup_text (htype.of_stored plain_layout rfl hstored).of_map
  have hkeys := eq_lookup (hprimaryKey.of_stored plain_layout rfl hstored).of_map hflag rfl
  have hnulls := eq_lookup (hnullable.of_stored plain_layout rfl hstored).of_map hflag rfl
  have huniques := eq_lookup (hunique.of_stored plain_layout rfl hstored).of_map hflag rfl
  have hdefaults := eq_lookup (hdefault.of_stored plain_layout rfl hstored).of_map hliteral rfl
  have hchecks := eq_lookup (hcheck.of_stored plain_layout rfl hstored).of_map htext rfl
  rw [ofObject, ← hnames, ← htypes, ← hkeys, ← hnulls, ← huniques, ← hdefaults, ← hchecks]

/-- **An object is read as a column exactly where it describes one, and as that one.** -/
theorem read_object_eq_ok_iff (json : ∀ member ∈ members, member.2.IsJson) :
    read (Value.object members).toTree = .ok c ↔ Described members ∧ c = ofObject members := by
  constructor
  · intro h
    exact ⟨(exists_read_object_iff json).mp ⟨c, h⟩, eq_ofObject_of_read h⟩
  · rintro ⟨hdescribed, rfl⟩
    obtain ⟨c, hc⟩ := (exists_read_object_iff json).mpr hdescribed
    rw [← eq_ofObject_of_read hc]
    exact hc

end Column

/-! ### Policies -/

namespace Policy

/-- The value is an object that describes a column. -/
def IsColumn (v : Value) : Prop :=
  ∃ members, v = .object members ∧ Column.Described members

/-- How policies are written. -/
inductive Spelled : Value → Policy → Prop
  | disabled : Spelled (.scalar (.flag false)) .disabled
  | enabled : Spelled (.scalar (.flag true)) .enabled
  | tagged (tag : String) : Spelled (.scalar (.text tag)) (.tagged tag)
  | column {members : List (String × Value)} (h : Column.Described members) :
      Spelled (.object members) (.column (.ofObject members))
  | columns {objects : List (List (String × Value))}
      (h : ∀ members ∈ objects, Column.Described members) :
      Spelled (.list (objects.map .object)) (.columns (objects.map .ofObject))

variable {v : Value} {p : Policy}

theorem columnOfValue?_eq_some_iff (json : v.IsJson) {c : Column} :
    columnOfValue? v = some c ↔
      ∃ members, v = .object members ∧ Column.Described members ∧ c = .ofObject members := by
  cases json with
  | object hmembers =>
      rename_i members
      have hmap : (Value.object members).isMap = true := rfl
      rw [columnOfValue?, hmap, if_pos rfl, toOption_eq_some_iff,
        Column.read_object_eq_ok_iff hmembers]
      constructor
      · exact fun h => ⟨members, rfl, h⟩
      · rintro ⟨other, hother, h⟩
        rw [Value.object_inj hother]
        exact h
  | _ => exact iff_of_false (by rintro ⟨⟩) (by rintro ⟨_, ⟨⟩, _⟩)

/-- Items are columns only when all of them are. -/
theorem mapM_columnOfValue?_eq_some_iff {items : List Value} (json : ∀ item ∈ items, item.IsJson)
    {cs : List Column} :
    items.mapM columnOfValue? = some cs ↔ ∃ objects : List (List (String × Value)),
      items = objects.map Value.object ∧ (∀ members ∈ objects, Column.Described members) ∧
      cs = objects.map Column.ofObject := by
  induction items generalizing cs with
  | nil =>
      constructor
      · intro h
        exact ⟨[], rfl, by simp, (Option.some.inj h).symm⟩
      · rintro ⟨objects, hobjects, -, rfl⟩
        rw [List.map_eq_nil_iff.mp hobjects.symm]
        rfl
  | cons item rest ih =>
      rw [List.forall_mem_cons] at json
      simp only [List.mapM_cons, Option.bind_eq_bind, Option.bind_eq_some_iff,
        columnOfValue?_eq_some_iff json.1, ih json.2]
      constructor
      · rintro ⟨_, ⟨members, rfl, hmembers, rfl⟩, _, ⟨objects, rfl, hobjects, rfl⟩, h⟩
        exact ⟨members :: objects, rfl, List.forall_mem_cons.mpr ⟨hmembers, hobjects⟩,
          (Option.some.inj h).symm⟩
      · rintro ⟨objects, hobjects, hall, rfl⟩
        obtain ⟨members, others, rfl, rfl, rfl⟩ := List.map_eq_cons_iff.mp hobjects.symm
        rw [List.forall_mem_cons] at hall
        exact ⟨_, ⟨members, rfl, hall.1, rfl⟩, _, ⟨others, rfl, hall.2, rfl⟩, rfl⟩

theorem ofValue?_eq_some_iff (json : v.IsJson) : ofValue? v = some p ↔ Spelled v p := by
  cases json with
  | null | number => exact iff_of_false (by rintro ⟨⟩) (by rintro ⟨⟩)
  | flag flag =>
      constructor
      · intro h
        obtain rfl := Option.some.inj h
        cases flag
        · exact .disabled
        · exact .enabled
      · rintro ⟨⟩ <;> rfl
  | text text =>
      constructor
      · intro h
        obtain rfl := Option.some.inj h
        exact .tagged text
      · rintro ⟨⟩
        rfl
  | list hitems =>
      rw [ofValue?, Option.map_eq_some_iff]
      simp only [mapM_columnOfValue?_eq_some_iff hitems]
      constructor
      · rintro ⟨_, ⟨objects, rfl, hobjects, rfl⟩, rfl⟩
        exact .columns hobjects
      · rintro ⟨⟩
        rename_i objects hobjects
        exact ⟨_, ⟨objects, rfl, hobjects, rfl⟩, rfl⟩
  | object hmembers =>
      rename_i members
      have hvalue : ofValue? (.object members) = (columnOfValue? (.object members)).map .column := rfl
      rw [hvalue, Option.map_eq_some_iff]
      simp only [columnOfValue?_eq_some_iff (.object hmembers)]
      constructor
      · rintro ⟨_, ⟨other, hother, hdescribed, rfl⟩, rfl⟩
        rw [hother]
        exact .column hdescribed
      · intro h
        -- An object is a map by its definition only, so the cases are told apart by what it is.
        generalize hv : Value.object members = value at h
        cases h with
        | column hdescribed => exact ⟨_, ⟨_, rfl, hdescribed, rfl⟩, rfl⟩
        | _ => cases hv

theorem exists_objects {items : List Value} (h : ∀ item ∈ items, IsColumn item) :
    ∃ objects : List (List (String × Value)), items = objects.map Value.object ∧
      ∀ members ∈ objects, Column.Described members := by
  induction items with
  | nil => exact ⟨[], rfl, by simp⟩
  | cons item rest ih =>
      rw [List.forall_mem_cons] at h
      obtain ⟨⟨members, rfl, hmembers⟩, hrest⟩ := h
      obtain ⟨objects, rfl, hobjects⟩ := ih hrest
      exact ⟨members :: objects, rfl, List.forall_mem_cons.mpr ⟨hmembers, hobjects⟩⟩

/-- The kinds of values that policies are written as. -/
theorem exists_spelled_iff : (∃ p, Spelled v p) ↔
    v.IsFlag ∨ v.IsText ∨ IsColumn v ∨ ∃ items, v = .list items ∧ ∀ item ∈ items, IsColumn item := by
  constructor
  · rintro ⟨p, h⟩
    cases h with
    | disabled => exact .inl ⟨false, rfl⟩
    | enabled => exact .inl ⟨true, rfl⟩
    | tagged tag => exact .inr (.inl ⟨tag, rfl⟩)
    | column h => exact .inr (.inr (.inl ⟨_, rfl, h⟩))
    | columns h =>
        refine .inr (.inr (.inr ⟨_, rfl, List.forall_mem_map.mpr fun members hmembers => ?_⟩))
        exact ⟨members, rfl, h members hmembers⟩
  · rintro (⟨flag, rfl⟩ | ⟨text, rfl⟩ | ⟨members, rfl, h⟩ | ⟨items, rfl, h⟩)
    · cases flag
      · exact ⟨_, .disabled⟩
      · exact ⟨_, .enabled⟩
    · exact ⟨_, .tagged text⟩
    · exact ⟨_, .column h⟩
    · obtain ⟨objects, rfl, hobjects⟩ := exists_objects h
      exact ⟨_, .columns hobjects⟩

/--
**Which values are policies, and which policies they are.**  A value of JSON is read as a policy
exactly as policies are written: a flag turns the group on or off, a text is a tag, an object that
describes a column is that column, and a list of such objects is the list of their columns.
Everything else is refused with one and the same message, a list with a single other item
included.
-/
theorem read_eq_ok_iff_spelled (json : v.IsJson) {t : Tree} (ht : t.value = .ok v) :
    (∀ p, read t = .ok p ↔ Spelled v p) ∧
    ((∃ p, read t = .ok p) ↔ v.IsFlag ∨ v.IsText ∨ IsColumn v ∨
      ∃ items, v = .list items ∧ ∀ item ∈ items, IsColumn item) ∧
    ∀ fault, read t = .error fault → fault = .noVariant "RawPolicy" := by
  have hread : ∀ p, read t = .ok p ↔ Spelled v p := by
    intro p
    rw [read, Tree.choose_eq_ok_iff, ← ofValue?_eq_some_iff json]
    simp [ht]
  refine ⟨hread, ?_, ?_⟩
  · rw [← exists_spelled_iff]
    exact exists_congr hread
  · intro fault h
    rw [read, Tree.choose, ht, ok_bind] at h
    cases hv : ofValue? v with
    | none =>
        rw [hv] at h
        exact (Except.error.inj h).symm
    | some p =>
        rw [hv] at h
        cases h

/-- A column with a name that is no field of it given twice, and a column of nothing. -/
def twoObjects : List (List (String × Value)) := [
  [("remark", .null), ("unique", .scalar (.flag true)), ("check", .null),
    ("name", .scalar (.text "note")), ("remark", .list [])],
  []]

theorem read_eq_ok_iff_spelled_twoObjects :
    (Value.list (twoObjects.map .object)).IsJson ∧
      read (Value.list (twoObjects.map .object)).toTree
        = .ok (.columns [{ name := "note", unique := some true }, {}]) := by
  have json : (Value.list (twoObjects.map .object)).IsJson := by
    refine .list (List.forall_mem_map.mpr fun members hmembers => .object ?_)
    have hmember : ∀ members ∈ twoObjects, ∀ member ∈ members, member.2.IsJson := by
      simp only [twoObjects, List.forall_mem_cons, List.not_mem_nil, false_implies, implies_true,
        and_true]
      exact ⟨.null, .flag true, .null, .text "note", .list (by simp)⟩
    exact hmember members hmembers
  have hdescribed : ∀ members ∈ twoObjects, Column.Described members := by
    intro members hmembers
    simp only [twoObjects, List.mem_cons, List.not_mem_nil, or_false] at hmembers
    rcases hmembers with rfl | rfl
    · exact ⟨by decide, by simp [Value.IsText], by simp [Value.IsFlag, Value.null],
        by simp, by simp [Value.null]⟩
    · exact ⟨by decide, by simp, by simp, by simp, by simp⟩
  exact ⟨json, ((read_eq_ok_iff_spelled json json.value_toTree).1 _).mpr (.columns hdescribed)⟩

end Policy

end Tablewright
