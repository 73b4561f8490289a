/-
What a node takes from the object it is read from.

An object gives parts by name, and may give names that mean nothing.  A node is made
of a draft, and each piece of the draft holds what the one part of its name says;
`exists_draft_of_read` says so for the pieces that decide the kind of the node and for
the limits on numbers.
-/
import Tablewright.Node.Reading
import Tablewright.Proofs.Document.Fields

namespace Tablewright

open Document

namespace Node

@[simp] theorem tree_part (t : Tree) : (part t).tree = t := by
  cases t with
  | leaf answers =>
      simp only [part]
      split
      · rfl
      · rfl
  | barred bar inner =>
      cases bar with
      | mark => rfl
      | depth => rfl
  | _ => rfl

theorem Draft.traits_node (d : Draft) : d.node.traits = d.traits := by
  unfold node
  split
  · rfl
  · split
    · split <;> rfl
    · split
      · rfl
      · split <;> rfl

theorem plain_layout : layout.Plain where
  aliases := by simp [layout]
  distinct := by decide

/-- Each of these pieces of a draft is set by one field only. -/
theorem layout_holds :
    layout.Holds 0 Draft.type (Part.ofTree Tree.text) ∧
    layout.Holds 1 Draft.properties (Part.optional Part.properties) ∧
    layout.Holds 3 Draft.target (Part.ofTree Tree.text) ∧
    layout.Holds 4 Draft.members (Part.ofTree (Tree.listOf Literal.read)) ∧
    layout.Holds 5 Draft.minimum (Part.ofTree Tree.number) ∧
    layout.Holds 6 Draft.maximum (Part.ofTree Tree.number) ∧
    layout.Holds 7 Draft.exclusiveMinimum (Part.ofTree Exclusive.read) ∧
    layout.Holds 8 Draft.exclusiveMaximum (Part.ofTree Exclusive.read) ∧
    layout.Holds 17 Draft.overrides (Part.ofTree Overrides.read) := by
  refine ⟨?_, ?_, ?_, ?_, ?_, ?_, ?_, ?_, ?_⟩
  all_goals
    refine Layout.holds_of_eraseIdx rfl (Field.sets_put fun _ _ => rfl) ?_
    intro field hfield
    simp only [layout, List.eraseIdx, List.mem_cons, List.not_mem_nil, or_false] at hfield
    rcases hfield with rfl | rfl | rfl | rfl | rfl | rfl | rfl | rfl | rfl | rfl | rfl | rfl | rfl
      | rfl | rfl | rfl | rfl
    all_goals exact Field.keeps_put fun _ _ => rfl

/-! ### Members that are read -/

/-- An exclusive limit as it is written. -/
def Exclusive.value : Exclusive → Value
  | flag raised => .scalar (.flag raised)
  | limit x => .scalar (.number x)

section

variable {value : Value}

theorem optional_text_iff {text : String} :
    value.toTree.optional Tree.text = .ok (some text) ↔ value = .scalar (.text text) :=
  Tree.optional_toTree_iff (fun _ _ => Value.text_toTree_iff) (by simp [Value.null])

theorem optional_number_iff {x : Number} :
    value.toTree.optional Tree.number = .ok (some x) ↔ value = .scalar (.number x) :=
  Tree.optional_toTree_iff (fun _ _ => Value.number_toTree_iff) (by simp [Value.null])

theorem Exclusive.read_toTree_iff {exclusive : Exclusive} :
    Exclusive.read value.toTree = .ok exclusive ↔ value = exclusive.value := by
  refine Tree.choose_toTree_iff (fun v a => ?_) fun a => ?_
  · cases v with
    | scalar s => cases s <;> cases a <;> simp [Exclusive.value]
    | list | map => cases a <;> simp [Exclusive.value]
  · cases a with
    | flag raised => exact ⟨.flag raised, rfl, by simp⟩
    | limit x => exact ⟨.number x, rfl, by simp⟩

theorem optional_exclusive_iff {exclusive : Exclusive} :
    value.toTree.optional Exclusive.read = .ok (some exclusive) ↔ value = exclusive.value := by
  refine Tree.optional_toTree_iff (fun _ _ => Exclusive.read_toTree_iff) fun a => ?_
  cases a <;> simp [Exclusive.value, Value.null]

end

/-! ### Drafts -/

/-- What the members of an object say of a piece of a draft that may be left out. -/
abbrev Says {α : Type} (members : List (String × Tree)) (name : String) (read : Tree → Read α)
    (held : Option α) : Prop :=
  Document.Says members name (·.optional read) none held

/-- A draft has these pieces from the members of an object. -/
structure Draft.From (members : List (String × Tree)) (d : Draft) : Prop where
  type : Says members "type" Tree.text d.type
  properties : Says members "properties" readEntries d.properties
  target : Says members "$ref" Tree.text d.target
  enum : Says members "enum" (Tree.listOf Literal.read) d.members
  minimum : Says members "minimum" Tree.number d.minimum
  maximum : Says members "maximum" Tree.number d.maximum
  exclusiveMinimum : Says members "exclusiveMinimum" Exclusive.read d.exclusiveMinimum
  exclusiveMaximum : Says members "exclusiveMaximum" Exclusive.read d.exclusiveMaximum
  overrides : Says members "additionalProperties" Overrides.read d.overrides

theorem memberParts_eq_map (members : List (Key × Tree)) :
    memberParts members = members.map fun member => (member.1, part member.2) := by
  induction members with
  | nil => rfl
  | cons member rest ih => rw [memberParts, ih, List.map_cons]

theorem memberParts_keyed (members : List (String × Tree)) :
    memberParts (keyed members) = keyed (members.map fun member => (member.1, part member.2)) := by
  rw [memberParts_eq_map, keyed, keyed, List.map_map, List.map_map]
  rfl

section

variable {members : List (String × Tree)} {name : String}

theorem read_of_parts {α : Type} {read : Tree → Read α} {held : Option α}
    (h : Document.Says (members.map fun member => (member.1, part member.2)) name
      (Part.ofTree read) none held) : Says members name read held := by
  have hmap := h.of_map
  simp only [Part.ofTree, tree_part] at hmap
  exact hmap

theorem readEntries_of_parts {held : Option (List (String × Node))}
    (h : Document.Says (members.map fun member => (member.1, part member.2)) name
      (Part.optional Part.properties) none held) : Says members name readEntries held := by
  have hmap := h.of_map
  simp only [Part.optional, tree_part] at hmap
  exact hmap

end

/-- **A node that is read from an object is made of a draft, and the pieces of the draft are what
the members of their names say.** -/
theorem exists_draft_of_read {members : List (String × Tree)} {n : Node}
    (h : read (Tree.object members) = .ok n) :
    ∃ draft : Draft, draft.node = n ∧ draft.From members := by
  rw [read, Tree.object, part] at h
  dsimp only at h
  rw [memberParts_keyed, ofMembers, bind_eq_ok_iff] at h
  obtain ⟨draft, hdraft, hnode⟩ := h
  obtain ⟨-, given, hstored⟩ := Layout.ofMembers_eq_ok_iff.mp hdraft
  obtain ⟨htype, hproperties, htarget, hmembers, hminimum, hmaximum, hexclusiveMinimum,
    hexclusiveMaximum, hoverrides⟩ := layout_holds
  exact ⟨draft, Except.ok.inj hnode,
    { type := read_of_parts (htype.of_stored plain_layout rfl hstored)
      properties := readEntries_of_parts (hproperties.of_stored plain_layout rfl hstored)
      target := read_of_parts (htarget.of_stored plain_layout rfl hstored)
      enum := read_of_parts (hmembers.of_stored plain_layout rfl hstored)
      minimum := read_of_parts (hminimum.of_stored plain_layout rfl hstored)
      maximum := read_of_parts (hmaximum.of_stored plain_layout rfl hstored)
      exclusiveMinimum := read_of_parts (hexclusiveMinimum.of_stored plain_layout rfl hstored)
      exclusiveMaximum := read_of_parts (hexclusiveMaximum.of_stored plain_layout rfl hstored)
      overrides := read_of_parts (hoverrides.of_stored plain_layout rfl hstored) }⟩

end Node

end Tablewright
