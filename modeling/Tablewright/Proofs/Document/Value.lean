/-
Values that keep what they say in a document.

A value that JSON can write is read from the tree it is made into: its keys are texts
and its numbers are finite.  A value of names, flags, texts and whole numbers is read
back from its text besides; other labels and numbers have no text of their own in every
notation, and how deep the containers lie matters to readers that enter only so many.
-/
import Tablewright.Document.Value
import Tablewright.Proofs.Result

namespace Tablewright.Document

/-- A scalar that every notation can write: no number but a whole one of 64 bits. -/
inductive Scalar.Plain : Scalar → Prop
  | null : Plain .null
  | flag (value : Bool) : Plain (.flag value)
  | number (value : Int) (fits : -wordHalf ≤ value ∧ value < wordSize) :
      Plain (.number (.whole value fits))
  | text (value : String) : Plain (.text value)

/-- A value of at most so many levels of containers, whose labels are names and whose scalars
every notation can write. -/
inductive Value.Plain : Nat → Value → Prop
  | scalar {levels : Nat} {s : Scalar} (h : s.Plain) : Plain levels (.scalar s)
  | list {levels : Nat} {items : List Value} (h : ∀ item ∈ items, Plain levels item) :
      Plain (levels + 1) (.list items)
  | map {levels : Nat} {members : List (Label × Value)}
      (names : ∀ member ∈ members, ∃ name, member.1 = .name name)
      (h : ∀ member ∈ members, Plain levels member.2) : Plain (levels + 1) (.map members)

/-- A member of a map that has a name and a plain value. -/
def PlainMember (levels : Nat) (member : Label × Value) : Prop :=
  (∃ name, member.1 = .name name) ∧ member.2.Plain levels

theorem plainMember_name {levels : Nat} {name : String} {v : Value} (h : v.Plain levels) :
    PlainMember levels (.name name, v) :=
  ⟨⟨name, rfl⟩, h⟩

/-- A member that may be left out is plain when it is given. -/
theorem plainMember_optional {β : Type} {levels : Nat} {name : String} {write : β → Value}
    {given : Option β} (h : ∀ b, given = some b → (write b).Plain levels) :
    ∀ member ∈ (given.map fun b => (Label.name name, write b)).toList, PlainMember levels member := by
  cases given with
  | none => simp
  | some b => simpa using plainMember_name (h b rfl)

/-- Parts under their names. -/
def keyed {V : Type} (parts : List (String × V)) : List (Key × V) :=
  parts.map fun part => (.ofText (pure part.1), part.2)

/-- The tree of an object: its members in order, repeated names included. -/
def Tree.object (members : List (String × Tree)) : Tree :=
  .map (keyed members) .closed

namespace Value

/-- An object of a document: its members in order, repeated names included. -/
def object (members : List (String × Value)) : Value :=
  .map (members.map fun member => (.name member.1, member.2))

theorem object_inj {first second : List (String × Value)} (h : object first = object second) :
    first = second := by
  refine (List.map_inj_right ?_).mp (map.inj h)
  rintro ⟨name, value⟩ ⟨other, another⟩ hmember
  obtain ⟨hname, hvalue⟩ := Prod.mk.inj hmember
  exact Prod.ext (Label.name.inj hname) hvalue

/-- A value as JSON has them. -/
inductive IsJson : Value → Prop
  | null : IsJson (scalar .null)
  | flag (value : Bool) : IsJson (scalar (.flag value))
  | number (value : Number) : IsJson (scalar (.number value))
  | text (value : String) : IsJson (scalar (.text value))
  | list {items : List Value} (h : ∀ item ∈ items, IsJson item) : IsJson (list items)
  | object {members : List (String × Value)} (h : ∀ member ∈ members, IsJson member.2) :
      IsJson (object members)

theorem plain_map {levels : Nat} {members : List (Label × Value)}
    (h : ∀ member ∈ members, PlainMember levels member) : (map members).Plain (levels + 1) :=
  .map (fun member hmember => (h member hmember).1) fun member hmember => (h member hmember).2

theorem itemTrees_eq_map (items : List Value) : itemTrees items = items.map toTree := by
  induction items with
  | nil => rfl
  | cons item rest ih => rw [itemTrees, ih, List.map_cons]

theorem memberTrees_eq_map (members : List (Label × Value)) :
    memberTrees members = members.map fun member =>
      (⟨pure member.1, pure member.1⟩, member.2.toTree) := by
  induction members with
  | nil => rfl
  | cons member rest ih => rw [memberTrees, ih, List.map_cons]

theorem toTree_object (members : List (String × Value)) :
    (object members).toTree = Tree.object (members.map fun member => (member.1, member.2.toTree)) := by
  rw [object, toTree, memberTrees_eq_map, Tree.object, keyed, List.map_map, List.map_map]
  rfl

/-- A map whose labels are names is an object. -/
theorem exists_object {members : List (Label × Value)}
    (names : ∀ member ∈ members, ∃ name, member.1 = .name name) :
    ∃ named : List (String × Value), map members = object named ∧
      ∀ member ∈ named, (.name member.1, member.2) ∈ members := by
  induction members with
  | nil => exact ⟨[], rfl, by simp⟩
  | cons member rest ih =>
      rw [List.forall_mem_cons] at names
      obtain ⟨label, value⟩ := member
      obtain ⟨name, rfl⟩ := names.1
      obtain ⟨named, hnamed, hmem⟩ := ih names.2
      have hmembers : rest = named.map fun member => (.name member.1, member.2) := map.inj hnamed
      refine ⟨(name, value) :: named, by rw [hmembers]; rfl, ?_⟩
      rw [List.forall_mem_cons]
      exact ⟨List.mem_cons_self, fun other hother => List.mem_cons_of_mem _ (hmem other hother)⟩

theorem Plain.isJson {levels : Nat} {v : Value} (h : v.Plain levels) : v.IsJson := by
  induction h with
  | scalar hs =>
      cases hs with
      | null => exact .null
      | flag value => exact .flag value
      | number value fits => exact .number _
      | text value => exact .text value
  | list _ ih => exact .list ih
  | map names _ ih =>
      obtain ⟨named, hnamed, hmem⟩ := exists_object names
      rw [hnamed]
      exact .object fun member hmember => ih _ (hmem member hmember)

/-! ### Reading a value from its tree -/

theorem values_itemTrees {items : List Value} (h : ∀ item ∈ items, item.toTree.value = .ok item) :
    Tree.values (itemTrees items) = .ok items := by
  induction items with
  | nil => rfl
  | cons item rest ih =>
      rw [List.forall_mem_cons] at h
      rw [itemTrees, Tree.values, h.1, ok_bind, ih h.2]
      rfl

theorem memberValues_memberTrees {members : List (Label × Value)}
    (h : ∀ member ∈ members, member.2.toTree.value = .ok member.2) :
    Tree.memberValues (memberTrees members) = .ok members := by
  induction members with
  | nil => rfl
  | cons member rest ih =>
      rw [List.forall_mem_cons] at h
      rw [memberTrees, Tree.memberValues, h.1, ih h.2]
      rfl

/-- **A value is read whole from the tree it is made into.** -/
theorem IsJson.value_toTree {v : Value} (h : v.IsJson) : v.toTree.value = .ok v := by
  induction h with
  | null | flag | number | text => rfl
  | list _ ih =>
      rw [toTree, Tree.value, values_itemTrees ih]
      rfl
  | object _ ih =>
      rw [Value.object, toTree, Tree.value, memberValues_memberTrees (List.forall_mem_map.mpr ih)]
      rfl

/-! ### Passing over a value -/

theorem skipItems_itemTrees {items : List Value} (h : ∀ item ∈ items, item.toTree.skip = .ok ()) :
    Tree.skipItems (itemTrees items) = .ok () := by
  induction items with
  | nil => rfl
  | cons item rest ih =>
      rw [List.forall_mem_cons] at h
      rw [itemTrees, Tree.skipItems, h.1, ok_bind, ih h.2]

theorem skipMembers_memberTrees {members : List (Label × Value)}
    (h : ∀ member ∈ members, member.2.toTree.skip = .ok ()) :
    Tree.skipMembers (memberTrees members) = .ok () := by
  induction members with
  | nil => rfl
  | cons member rest ih =>
      rw [List.forall_mem_cons] at h
      rw [memberTrees, Tree.skipMembers, h.1, ok_bind, ih h.2]

theorem IsJson.skip_toTree {v : Value} (h : v.IsJson) : v.toTree.skip = .ok () := by
  induction h with
  | null | flag | number | text => rfl
  | list _ ih =>
      rw [toTree, Tree.skip, skipItems_itemTrees ih]
      rfl
  | object _ ih =>
      rw [Value.object, toTree, Tree.skip, skipMembers_memberTrees (List.forall_mem_map.mpr ih)]
      rfl

/-! ### Reading one kind of scalar -/

/-- The value is a text. -/
def IsText (v : Value) : Prop := ∃ text, v = scalar (.text text)

/-- The value is a flag. -/
def IsFlag (v : Value) : Prop := ∃ flag, v = scalar (.flag flag)

/-- The value is a number. -/
def IsNumber (v : Value) : Prop := ∃ number, v = scalar (.number number)

/-- The text that the value is. -/
def text? : Value → Option String
  | scalar (.text text) => some text
  | _ => none

/-- The flag that the value is. -/
def flag? : Value → Option Bool
  | scalar (.flag flag) => some flag
  | _ => none

theorem text_toTree_iff {v : Value} {text : String} :
    v.toTree.text = .ok text ↔ v = scalar (.text text) := by
  constructor
  · intro h
    cases v with
    | scalar s =>
        cases s <;> cases h
        rfl
    | list | map => cases h
  · rintro rfl
    rfl

theorem flag_toTree_iff {v : Value} {flag : Bool} :
    v.toTree.flag = .ok flag ↔ v = scalar (.flag flag) := by
  constructor
  · intro h
    cases v with
    | scalar s =>
        cases s <;> cases h
        rfl
    | list | map => cases h
  · rintro rfl
    rfl

theorem number_toTree_iff {v : Value} {x : Number} :
    v.toTree.number = .ok x ↔ v = scalar (.number x) := by
  constructor
  · intro h
    cases v with
    | scalar s =>
        cases s <;> cases h
        rfl
    | list | map => cases h
  · rintro rfl
    rfl

theorem isAbsent_toTree_iff {v : Value} : v.toTree.isAbsent = true ↔ v = scalar .null := by
  cases v with
  | scalar s => cases s <;> simp [toTree, Tree.ofScalar, Tree.isAbsent, Leaf.ofScalar]
  | list items => simp [toTree, Tree.isAbsent]
  | map members => simp [toTree, Tree.isAbsent]

end Value

namespace Tree

variable {α : Type}

/-- A refusal gives nothing, whether or not there is something to be described. -/
theorem refuse_ne_ok (t : Tree) (wanted : String) (a : α) : t.refuse wanted ≠ .ok a := by
  unfold refuse
  cases t.found <;> nofun

theorem choose_eq_ok_iff {title : String} {readings : Value → Option α} {t : Tree} {a : α} :
    t.choose title readings = .ok a ↔ ∃ v, t.value = .ok v ∧ readings v = some a := by
  rw [choose, bind_eq_ok_iff]
  refine exists_congr fun v => and_congr_right fun _ => ?_
  cases readings v with
  | none => exact iff_of_false (by rintro ⟨⟩) (by simp)
  | some b =>
      exact ⟨fun h => congrArg some (Except.ok.inj h), fun h => congrArg _ (Option.some.inj h)⟩

theorem optional_eq_some_iff {read : Tree → Read α} {t : Tree} {a : α} :
    t.optional read = .ok (some a) ↔ t.isAbsent = false ∧ read t = .ok a := by
  unfold optional
  cases t.isAbsent with
  | true => exact iff_of_false (by rintro ⟨⟩) (by simp)
  | false => cases read t <;> simp [Functor.map, Except.map]

theorem optional_eq_none_iff {read : Tree → Read α} {t : Tree} :
    t.optional read = .ok none ↔ t.isAbsent = true := by
  unfold optional
  cases t.isAbsent with
  | true => exact iff_of_true rfl rfl
  | false => cases read t <;> simp [Functor.map, Except.map]

/-- A value that is no scalar is not mistaken for one, and a scalar that is none of its readings is
refused. -/
theorem choose_toTree_iff {title : String} {readings : Value → Option α} {write : α → Value}
    (hread : ∀ v a, readings v = some a ↔ v = write a)
    (hscalar : ∀ a, ∃ s, write a = .scalar s ∧ s ≠ .oversized) {v : Value} {a : α} :
    v.toTree.choose title readings = .ok a ↔ v = write a := by
  rw [choose_eq_ok_iff]
  obtain ⟨s, hs, hfits⟩ := hscalar a
  constructor
  · rintro ⟨w, hw, hreadings⟩
    obtain rfl := (hread w a).mp hreadings
    rw [hs] at hw ⊢
    cases v with
    | scalar other => cases other <;> cases hw <;> rfl
    | list items =>
        obtain ⟨_, -, h⟩ := bind_eq_ok_iff.mp hw
        cases h
    | map members =>
        obtain ⟨_, -, h⟩ := bind_eq_ok_iff.mp hw
        cases h
  · rintro rfl
    refine ⟨write a, ?_, (hread _ a).mpr rfl⟩
    rw [hs]
    cases s with
    | oversized => exact absurd rfl hfits
    | _ => rfl

/-- What is read from one value only, and not from nothing, is read from that value where it may be
left out. -/
theorem optional_toTree_iff {read : Tree → Read α} {write : α → Value}
    (hread : ∀ v a, read v.toTree = .ok a ↔ v = write a) (hnull : ∀ a, write a ≠ .null)
    {v : Value} {a : α} : v.toTree.optional read = .ok (some a) ↔ v = write a := by
  rw [optional_eq_some_iff, hread]
  refine and_iff_right_of_imp ?_
  rintro rfl
  exact Bool.eq_false_iff.mpr (mt Value.isAbsent_toTree_iff.mp (hnull a))

/-- A value that may be left out is read where it is left out or can be read. -/
theorem optional_isOk_iff {read : Tree → Read α} {t : Tree} :
    (∃ held, t.optional read = .ok held) ↔ t.isAbsent = true ∨ ∃ a, read t = .ok a := by
  unfold optional
  cases t.isAbsent with
  | true => simp [pure, Except.pure]
  | false => cases read t <;> simp [Functor.map, Except.map]

end Tree

end Tablewright.Document
