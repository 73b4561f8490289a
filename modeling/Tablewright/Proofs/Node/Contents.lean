/-
What an object of a JSON text has in it.

An object keeps its properties in the order in which the text first gives their names,
each as the last value of its name is read.  Its overrides are written as a flag, which
settles nothing, or as a record; a record is mostly an object, whose members set one
override each.

Anything may be given besides, and in any order: what a name gives is found under that
name only.
-/
import Tablewright.Proofs.Entries
import Tablewright.Proofs.Node.Kind

namespace Tablewright

open Document

/-! ### Overrides -/

namespace Overrides

/-- Overrides are what the members of an object say. -/
structure From (members : List (String × Value)) (o : Overrides) : Prop where
  id : Says members "id" (·.toTree.optional Policy.read) none o.id
  timestamp : Says members "timestamp" (·.toTree.optional Policy.read) none o.timestamp
  operator : Says members "operator" (·.toTree.optional Policy.read) none o.operator
  softDelete : Says members "softDelete" (·.toTree.optional Policy.read) none o.softDelete
  primaryKey : Says members "primaryKey" (·.toTree.optional Tree.flag) none o.primaryKey
  dataType : Says members "dataType" (·.toTree.optional Tree.text) none o.dataType
  check : Says members "check" (·.toTree.optional Tree.text) none o.check

theorem plain_layout : layout.Plain where
  aliases := by simp [layout]
  distinct := by decide

/-- Each override is set by one field only. -/
theorem layout_holds :
    layout.Holds 0 Overrides.id (·.optional Policy.read) ∧
    layout.Holds 1 Overrides.timestamp (·.optional Policy.read) ∧
    layout.Holds 2 Overrides.operator (·.optional Policy.read) ∧
    layout.Holds 3 Overrides.softDelete (·.optional Policy.read) ∧
    layout.Holds 4 Overrides.primaryKey (·.optional Tree.flag) ∧
    layout.Holds 5 Overrides.dataType (·.optional Tree.text) ∧
    layout.Holds 6 Overrides.check (·.optional Tree.text) := by
  refine ⟨?_, ?_, ?_, ?_, ?_, ?_, ?_⟩
  all_goals
    refine Layout.holds_of_eraseIdx rfl (Field.sets_put fun _ _ => rfl) ?_
    intro field hfield
    simp only [layout, List.eraseIdx, List.mem_cons, List.not_mem_nil, or_false] at hfield
    rcases hfield with rfl | rfl | rfl | rfl | rfl | rfl
    all_goals exact Field.keeps_put fun _ _ => rfl

theorem from_of_read {members : List (String × Value)} {o : Overrides}
    (h : layout.read {} (Value.object members).toTree = .ok o) : o.From members := by
  rw [Value.toTree_object] at h
  obtain ⟨given, hstored⟩ := Layout.read_object_eq_ok_iff.mp h
  obtain ⟨hid, htimestamp, hoperator, hsoftDelete, hprimaryKey, hdataType, hcheck⟩ := layout_holds
  exact {
    id := (hid.of_stored plain_layout rfl hstored).of_map
    timestamp := (htimestamp.of_stored plain_layout rfl hstored).of_map
    operator := (hoperator.of_stored plain_layout rfl hstored).of_map
    softDelete := (hsoftDelete.of_stored plain_layout rfl hstored).of_map
    primaryKey := (hprimaryKey.of_stored plain_layout rfl hstored).of_map
    dataType := (hdataType.of_stored plain_layout rfl hstored).of_map
    check := (hcheck.of_stored plain_layout rfl hstored).of_map }

end Overrides

namespace Node

/-- How the members of an object write its overrides. -/
inductive OverridesOf (members : List (String × Tree)) : Overrides → Prop
  | none (h : ¬ Gives members "additionalProperties") : OverridesOf members {}
  | flag {raised : Bool} (h : ("additionalProperties", .ofScalar (.flag raised)) ∈ members) :
      OverridesOf members {}
  | object {t : Tree} {named : List (String × Value)} {overrides : Overrides}
      (h : ("additionalProperties", t) ∈ members) (value : t.value = .ok (.object named))
      (given : overrides.From named) : OverridesOf members overrides
  /-- The overrides one after the other, without their names. -/
  | list {t : Tree} {items : List Value} {overrides : Overrides}
      (h : ("additionalProperties", t) ∈ members) (value : t.value = .ok (.list items))
      (read : Overrides.layout.ofItems {} (items.map Value.toTree) .closed = .ok overrides) :
      OverridesOf members overrides

variable {members : List (String × Tree)}

theorem overridesOf_of_read {t : Tree} {overrides : Overrides} (json : t.IsJson)
    (hmember : ("additionalProperties", t) ∈ members) (h : Overrides.read t = .ok overrides) :
    OverridesOf members overrides := by
  obtain ⟨v, hv, hoverrides⟩ := Tree.choose_eq_ok_iff.mp h
  have hread (hrecord : Overrides.ofValue? v = (Overrides.layout.read {} v.toTree).toOption) :
      Overrides.layout.read {} v.toTree = .ok overrides :=
    toOption_eq_some_iff.mp (hrecord.symm.trans hoverrides)
  cases json.value hv with
  | flag raised =>
      obtain rfl := Option.some.inj hoverrides
      exact .flag (json.eq_of_value hv ▸ hmember)
  | null | number | text => exact absurd (hread rfl) (Tree.refuse_ne_ok _ _ _)
  | list hitems =>
      refine .list hmember hv ?_
      rw [← Value.itemTrees_eq_map]
      exact hread rfl
  | object hnamed => exact .object hmember hv (Overrides.from_of_read (hread rfl))

/-! ### Properties -/

/-- Nodes are read from trees, each under its name. -/
def ReadFrom (sources : List (String × Tree)) (entries : List (String × Node)) : Prop :=
  List.Forall₂ (fun source entry => source.1 = entry.1 ∧ read source.2 = .ok entry.2) sources entries

/-- How the members of an object write its properties. -/
inductive PropertiesOf (members : List (String × Tree)) : List (String × Node) → Prop
  | none (h : ¬ Gives members "properties") : PropertiesOf members []
  | given {named sources : List (String × Tree)} {properties : List (String × Node)}
      (h : ("properties", .object named) ∈ members) (collects : Entries.Collects named sources)
      (read : ReadFrom sources properties) : PropertiesOf members properties

theorem mem_of_isJson_object (json : (Tree.object members).IsJson) :
    ∀ member ∈ members, member.2.IsJson := by
  cases json with
  | map _ h => exact fun member hmember => h _ (List.mem_map_of_mem hmember)

theorem entryName_ofText (text : Read String) : entryName (.ofText text) = text := by
  cases text <;> rfl

/-- Members that are all read as entries have names, and their values are nodes. -/
theorem exists_keyed_of_forall₂ {members : List (Key × Tree)} {pairs : List (String × Node)}
    (keys : ∀ member ∈ members, ∃ text, member.1 = .ofText text)
    (h : List.Forall₂ (fun member pair => (do
      let name ← entryName member.1
      let node ← read member.2
      pure (name, node)) = Except.ok pair) members pairs) :
    ∃ named, members = keyed named ∧ ReadFrom named pairs := by
  induction h with
  | nil => exact ⟨[], rfl, .nil⟩
  | @cons member pair rest pairs hfirst _ ih =>
      obtain ⟨key, t⟩ := member
      rw [List.forall_mem_cons] at keys
      obtain ⟨named, rfl, hnamed⟩ := ih keys.2
      obtain ⟨text, rfl⟩ := keys.1
      rw [entryName_ofText] at hfirst
      obtain ⟨name, rfl, hfirst⟩ := bind_eq_ok_iff.mp hfirst
      obtain ⟨node, hnode, hfirst⟩ := bind_eq_ok_iff.mp hfirst
      obtain rfl := Except.ok.inj hfirst
      exact ⟨(name, t) :: named, rfl, .cons ⟨rfl, hnode⟩ hnamed⟩

/-- **A map of nodes is read from an object whose members are all nodes; the last of each name
stays.** -/
theorem exists_object_of_readEntries {t : Tree} {entries : List (String × Node)} (json : t.IsJson)
    (h : readEntries t = .ok entries) : ∃ named pairs, t = .object named ∧ ReadFrom named pairs ∧
      entries = Entries.ofList pairs := by
  cases json with
  | @map members ending keys _ =>
      rw [readEntries, part] at h
      obtain ⟨pairs, hpairs, hrest⟩ := bind_eq_ok_iff.mp h
      obtain ⟨_, hending, hentries⟩ := bind_eq_ok_iff.mp hrest
      rw [memberParts_eq_map, mapM_eq_ok_iff, List.forall₂_map_left_iff] at hpairs
      obtain ⟨named, rfl, hnamed⟩ := exists_keyed_of_forall₂ keys hpairs
      rw [MapEnd.read_eq_ok_iff.mp hending]
      exact ⟨named, pairs, rfl, hnamed, (Except.ok.inj hentries).symm⟩
  | list | null | flag | number | text => exact absurd h (Tree.refuse_ne_ok _ _ _)
  | @deep inner _ =>
      -- A map that lies too deep is refused as that, and anything else there as no map.
      cases inner with
      | map => cases h
      | _ => exact absurd h (Tree.refuse_ne_ok _ _ _)
  | broken => cases h

theorem ReadFrom.names {sources : List (String × Tree)} {entries : List (String × Node)}
    (h : ReadFrom sources entries) : sources.map Prod.fst = entries.map Prod.fst := by
  induction h with
  | nil => rfl
  | cons hfirst _ ih => rw [List.map_cons, List.map_cons, hfirst.1, ih]

theorem PropertiesOf.nodup {properties : List (String × Node)} (h : PropertiesOf members properties) :
    (properties.map Prod.fst).Nodup := by
  cases h with
  | none => exact .nil
  | given _ collects read => exact read.names ▸ collects.nodup

/-! ### Objects -/

namespace Draft.From

variable {d : Draft} (hfrom : d.From members) (json : ∀ member ∈ members, member.2.IsJson)
include hfrom json

theorem propertiesOf : PropertiesOf members (d.properties.getD []) := by
  cases hproperties : d.properties with
  | none => exact .none ((hfrom.properties.eq_none_iff json).mp hproperties)
  | some properties =>
      obtain ⟨t, ht, hjson, hread⟩ := (hproperties ▸ hfrom.properties).exists_of_some json
      obtain ⟨named, pairs, rfl, hnamed, rfl⟩ := exists_object_of_readEntries hjson hread
      exact .given ht (Entries.collects_ofList named)
        (Entries.forall₂_ofList (fun _ _ hentry => hentry.1) hnamed)

theorem overridesOf : OverridesOf members (d.overrides.getD {}) := by
  cases hoverrides : d.overrides with
  | none => exact .none ((hfrom.overrides.eq_none_iff json).mp hoverrides)
  | some overrides =>
      obtain ⟨t, ht, hjson, hread⟩ := (hoverrides ▸ hfrom.overrides).exists_of_some json
      exact overridesOf_of_read hjson ht hread

end Draft.From

/-- What a node is that was read from an object with these members. -/
structure MadeOf (members : List (String × Tree)) (n : Node) : Prop where
  isObject_iff : n.isObject = true ↔ Declared members
  shows_iff : ∀ found, Shows members found ↔ found = n.shape
  contents : Declared members → ∃ properties overrides traits,
    n = .object properties overrides traits ∧ PropertiesOf members properties ∧
      OverridesOf members overrides

/-- **A node that is read from an object of a JSON text is what the members make of it.** -/
theorem madeOf_of_read {n : Node} (json : ∀ member ∈ members, member.2.IsJson)
    (h : read (Tree.object members) = .ok n) : MadeOf members n := by
  obtain ⟨draft, rfl, hfrom⟩ := exists_draft_of_read h
  exact {
    isObject_iff := hfrom.isObject_iff json
    shows_iff := fun _ => hfrom.shows_iff json
    contents := fun declared => ⟨_, _, _, hfrom.node_of_declared json declared,
      hfrom.propertiesOf json, hfrom.overridesOf json⟩ }

/-- A map that is read as a node is an object. -/
theorem exists_object_of_read {entries : List (Key × Tree)} {ending : MapEnd} {n : Node}
    (json : (Document.Tree.map entries ending).IsJson) (h : read (.map entries ending) = .ok n) :
    ∃ members, Document.Tree.map entries ending = .object members := by
  rw [read, part] at h
  obtain ⟨draft, hdraft, -⟩ := bind_eq_ok_iff.mp h
  obtain ⟨rfl, given, hstored⟩ := Layout.ofMembers_eq_ok_iff.mp hdraft
  have hknown := Layout.knows_of_storeMembers hstored
  rw [memberParts_eq_map, List.forall_mem_map] at hknown
  cases json with
  | map keys _ =>
      obtain ⟨members, rfl⟩ := exists_keyed keys fun member hmember => by
        obtain ⟨label, _, hlabel, -⟩ := hknown member hmember
        exact ⟨label, hlabel⟩
      exact ⟨members, rfl⟩

end Node

end Tablewright
