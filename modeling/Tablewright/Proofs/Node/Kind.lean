/-
What kind of node an object of a JSON text is.

The names that an object gives compete for its kind: a target makes it a reference
whatever else it gives, then a type may make it a list, then members make it an
enumeration, and only what is left is an object or a plain value by its type.  `Shows`
is the word for the outcome in each of these cases, in this order, and `Declared` is
the one case in which the node is an object.

Both are told by the members alone.  A piece of the draft that a node is made of is set
exactly where the members give something under its name, which is what the cases are
split by.
-/
import Tablewright.Proofs.Json.Tree
import Tablewright.Proofs.Node.Reading

namespace Tablewright

open Document

namespace Node

/-! ### What the members of an object say -/

section

variable (members : List (String × Tree))

/-- The members give something under the name. -/
def Gives (name : String) : Prop :=
  ∃ t, (name, t) ∈ members ∧ t ≠ .ofScalar .null

/-- The members give this type. -/
def HasType (type : String) : Prop :=
  ("type", .ofScalar (.text type)) ∈ members

/-- The members make an object of the node. -/
structure Declared : Prop where
  type : HasType members "object"
  target : ¬ Gives members "$ref"
  enum : ¬ Gives members "enum"

/-- What a message says that the members make of the node. -/
inductive Shows : String → Prop
  | reference (target : Gives members "$ref") : Shows "$ref"
  | list (target : ¬ Gives members "$ref") (type : HasType members "array") : Shows "array"
  | typedEnum {type : String} (target : ¬ Gives members "$ref") (given : HasType members type)
      (other : type ≠ "array") (enum : Gives members "enum") : Shows ("enum of " ++ type)
  | untypedEnum (target : ¬ Gives members "$ref") (type : ¬ Gives members "type")
      (enum : Gives members "enum") : Shows "enum"
  | typed {type : String} (target : ¬ Gives members "$ref") (given : HasType members type)
      (other : type ≠ "array") (enum : ¬ Gives members "enum") : Shows type
  | untyped (target : ¬ Gives members "$ref") (type : ¬ Gives members "type")
      (enum : ¬ Gives members "enum") : Shows "none"

end

variable {members : List (String × Tree)}

/-- Only an object is said to be one. -/
theorem Shows.ne_object {found : String} (h : Shows members found) (hnot : ¬ Declared members) :
    found ≠ "object" := by
  cases h with
  | reference | list | untypedEnum | untyped => decide
  | typedEnum =>
      -- Whatever the type is, the first letters of the two texts differ.
      intro hfound
      have hlist := congrArg String.toList hfound
      rw [String.toList_append] at hlist
      exact absurd (List.cons.inj hlist).1 (by decide)
  | typed target given other enum =>
      rintro rfl
      exact hnot ⟨given, target, enum⟩

section

variable {α : Type} {name : String} {read : Tree → Read α} {held : Option α}

/-- A piece of the draft is left out where the members give nothing under its name. -/
theorem Says.eq_none_iff (h : Says members name read held)
    (json : ∀ member ∈ members, member.2.IsJson) : held = none ↔ ¬ Gives members name := by
  constructor
  · rintro rfl ⟨t, ht, hne⟩
    exact hne ((json _ ht).isAbsent_iff.mp (Tree.optional_eq_none_iff.mp (h.given t ht)))
  · intro hnot
    by_contra hne
    obtain ⟨t, ht, hread⟩ := h.exists_given hne
    obtain ⟨a, ha⟩ := Option.ne_none_iff_exists'.mp hne
    rw [ha] at hread
    refine hnot ⟨t, ht, fun hnull => ?_⟩
    have habsent := (Tree.optional_eq_some_iff.mp hread).1
    rw [(json _ ht).isAbsent_iff.mpr hnull] at habsent
    cases habsent

/-- A piece of the draft that is set comes from a member of its name. -/
theorem Says.exists_of_some {a : α} (h : Says members name read (some a))
    (json : ∀ member ∈ members, member.2.IsJson) :
    ∃ t, (name, t) ∈ members ∧ t.IsJson ∧ read t = .ok a := by
  obtain ⟨t, ht, hread⟩ := h.exists_given (by simp)
  exact ⟨t, ht, json _ ht, (Tree.optional_eq_some_iff.mp hread).2⟩

end

namespace Draft.From

variable {d : Draft} (hfrom : d.From members) (json : ∀ member ∈ members, member.2.IsJson)
include hfrom json

theorem type_eq_some_iff {type : String} : d.type = some type ↔ HasType members type :=
  hfrom.type.eq_some_iff fun v hv => (json (_, v) hv).optional_text_iff

theorem target_eq_none_iff : d.target = none ↔ ¬ Gives members "$ref" :=
  hfrom.target.eq_none_iff json

theorem type_eq_none_iff : d.type = none ↔ ¬ Gives members "type" :=
  hfrom.type.eq_none_iff json

theorem members_eq_none_iff : d.members = none ↔ ¬ Gives members "enum" :=
  hfrom.enum.eq_none_iff json

theorem eq_shape {found : String} (h : Shows members found) : found = d.node.shape := by
  have htarget := hfrom.target_eq_none_iff json
  have htype := hfrom.type_eq_none_iff json
  have hmembers := hfrom.members_eq_none_iff json
  cases h with
  | reference target =>
      obtain ⟨name, hname⟩ := Option.ne_none_iff_exists'.mp (mt htarget.mp (not_not.mpr target))
      simp [node, hname, shape]
  | list target type =>
      have hlist := (hfrom.type_eq_some_iff json).mpr type
      cases hitems : d.items <;> simp [node, htarget.mpr target, hlist, hitems, shape]
  | typedEnum target given other enum =>
      have htyped := (hfrom.type_eq_some_iff json).mpr given
      obtain ⟨literals, hliterals⟩ :=
        Option.ne_none_iff_exists'.mp (mt hmembers.mp (not_not.mpr enum))
      simp [node, htarget.mpr target, htyped, other, hliterals, shape, traits]
  | untypedEnum target type enum =>
      obtain ⟨literals, hliterals⟩ :=
        Option.ne_none_iff_exists'.mp (mt hmembers.mp (not_not.mpr enum))
      simp [node, htarget.mpr target, htype.mpr type, hliterals, shape, traits]
  | typed target given other enum =>
      have htyped := (hfrom.type_eq_some_iff json).mpr given
      by_cases hobject : found = "object"
      · simp [node, htarget.mpr target, htyped, hmembers.mpr enum, hobject, shape]
      · simp [node, htarget.mpr target, htyped, other, hmembers.mpr enum, hobject, shape, traits]
  | untyped target type enum =>
      simp [node, htarget.mpr target, htype.mpr type, hmembers.mpr enum, shape, traits]

theorem exists_shows : ∃ found, Shows members found := by
  by_cases target : Gives members "$ref"
  · exact ⟨_, .reference target⟩
  · by_cases enum : Gives members "enum"
    · cases htype : d.type with
      | none => exact ⟨_, .untypedEnum target ((hfrom.type_eq_none_iff json).mp htype) enum⟩
      | some type =>
          have given := (hfrom.type_eq_some_iff json).mp htype
          by_cases array : type = "array"
          · exact ⟨_, .list target (array ▸ given)⟩
          · exact ⟨_, .typedEnum target given array enum⟩
    · cases htype : d.type with
      | none => exact ⟨_, .untyped target ((hfrom.type_eq_none_iff json).mp htype) enum⟩
      | some type =>
          have given := (hfrom.type_eq_some_iff json).mp htype
          by_cases array : type = "array"
          · exact ⟨_, .list target (array ▸ given)⟩
          · exact ⟨_, .typed target given array enum⟩

/-- **The members say what a message says of the node.** -/
theorem shows_iff {found : String} : Shows members found ↔ found = d.node.shape := by
  constructor
  · exact hfrom.eq_shape json
  · rintro rfl
    obtain ⟨found, h⟩ := hfrom.exists_shows json
    exact hfrom.eq_shape json h ▸ h

theorem node_of_declared (h : Declared members) :
    d.node = .object (d.properties.getD []) (d.overrides.getD {}) d.traits := by
  have htype := (hfrom.type_eq_some_iff json).mpr h.type
  have htarget := (hfrom.target_eq_none_iff json).mpr h.target
  have hmembers := (hfrom.members_eq_none_iff json).mpr h.enum
  simp [node, htype, htarget, hmembers]

/-- **The node is an object exactly where the members make it one.** -/
theorem isObject_iff : d.node.isObject = true ↔ Declared members := by
  constructor
  · intro h
    by_contra hnot
    have hshape : "object" = d.node.shape := by
      cases hnode : d.node with
      | object => rfl
      | _ =>
          rw [hnode] at h
          cases h
    exact ((hfrom.shows_iff json).mpr hshape).ne_object hnot rfl
  · intro h
    rw [hfrom.node_of_declared json h]
    rfl

end Draft.From

end Node

end Tablewright
