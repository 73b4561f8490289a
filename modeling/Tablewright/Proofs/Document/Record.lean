/-
Records that are written field by field read back.

A reader stores the members of a map one after the other and refuses a field that
it has seen.  Members in the order of the fields are never seen before, whichever of
them are left out; so each part of such a map only has to store what it says.
-/
import Tablewright.Document.Record
import Tablewright.Proofs.Document.Value

namespace Tablewright.Document

/-- The members behind others are stored on top of them. -/
theorem Layout.storeMembers_append {V δ : Type} (layout : Layout V δ) (skip : V → Read Unit)
    (first second : List (Key × V)) (seen : List Nat) (draft : δ) :
    layout.storeMembers skip (first ++ second) seen draft
      = (layout.storeMembers skip first seen draft >>= fun stored =>
          layout.storeMembers skip second stored.1 stored.2) := by
  induction first generalizing seen draft with
  | nil => rfl
  | cons member rest ih =>
      obtain ⟨key, value⟩ := member
      rw [List.cons_append, storeMembers, storeMembers]
      cases key.direct with
      | error fault => rfl
      | ok label =>
          rw [ok_bind, ok_bind]
          cases layout.position? label with
          | error fault => rfl
          | ok position =>
              rw [ok_bind, ok_bind]
              cases position with
              | none =>
                  dsimp only
                  cases skip value with
                  | error fault => rfl
                  | ok _ => exact ih seen draft
              | some position =>
                  dsimp only
                  cases layout.checkFresh seen position with
                  | error fault => rfl
                  | ok _ =>
                      rw [ok_bind, ok_bind]
                      cases layout.fields[position]? with
                      | none => exact ih seen draft
                      | some field =>
                          dsimp only
                          cases field.store value draft with
                          | error fault => rfl
                          | ok stored => exact ih (position :: seen) stored

variable {δ : Type} {layout : Layout Tree δ}

/-- Members that give fields from position `start` up to `stop` take one draft to another, whatever
fields before these were given. -/
def Stores (layout : Layout Tree δ) (start : Nat) (draft : δ) (members : List (Label × Value))
    (stop : Nat) (stored : δ) : Prop :=
  ∀ seen, (∀ position ∈ seen, position < start) → ∃ given, (∀ position ∈ given, position < stop) ∧
    layout.storeMembers Tree.skip (Value.memberTrees members) seen draft = .ok (given, stored)

namespace Stores

variable {start middle stop : Nat} {draft stored : δ}

theorem nil (hle : start ≤ stop) : Stores layout start draft [] stop draft := by
  intro seen hseen
  exact ⟨seen, fun position hposition => Nat.lt_of_lt_of_le (hseen position hposition) hle, rfl⟩

/-- One member. -/
theorem single {field : Field Tree δ} {name : String} {value : Value} {position : Nat}
    (hposition : layout.position? (.name name) = .ok (some position))
    (hfield : layout.fields[position]? = some field) (hle : start ≤ position)
    (hstore : field.store value.toTree draft = .ok stored) :
    Stores layout start draft [(.name name, value)] (position + 1) stored := by
  intro seen hseen
  have hfresh : layout.checkFresh seen position = .ok () := by
    have hnot : position ∉ seen := fun hmem => absurd (hseen position hmem) (by omega)
    unfold Layout.checkFresh
    rw [if_neg (by simpa using hnot)]
    rfl
  refine ⟨position :: seen, ?_, ?_⟩
  · intro k hk
    rcases List.mem_cons.mp hk with rfl | hbefore
    · exact Nat.lt_succ_self k
    · exact Nat.lt_of_lt_of_le (hseen k hbefore) (by omega)
  · have hkey : (pure (.name name) : Read Label) = .ok (.name name) := rfl
    simp only [Value.memberTrees, Layout.storeMembers, hkey, ok_bind, hposition, hfresh, hfield,
      hstore]
    rfl

theorem append {between : δ} {first second : List (Label × Value)}
    (hfirst : Stores layout start draft first middle between)
    (hsecond : Stores layout middle between second stop stored) :
    Stores layout start draft (first ++ second) stop stored := by
  intro seen hseen
  obtain ⟨given, hgiven, hstored⟩ := hfirst seen hseen
  obtain ⟨all, hall, hlast⟩ := hsecond given hgiven
  have hmembers : Value.memberTrees (first ++ second)
      = Value.memberTrees first ++ Value.memberTrees second := by
    simp only [Value.memberTrees_eq_map, List.map_append]
  refine ⟨all, hall, ?_⟩
  rw [hmembers, Layout.storeMembers_append, hstored, ok_bind]
  exact hlast

/-- A member that may be left out; `draft` has the field as it is given. -/
theorem optional {β : Type} {field : Field Tree δ} {name : String} {write : β → Value}
    {position : Nat} (draft : Option β → δ) (given : Option β)
    (hposition : layout.position? (.name name) = .ok (some position))
    (hfield : layout.fields[position]? = some field) (hle : start ≤ position)
    (hstore : ∀ b, field.store (write b).toTree (draft none) = .ok (draft (some b))) :
    Stores layout start (draft none) (given.map fun b => (.name name, write b)).toList
      (position + 1) (draft given) := by
  cases given with
  | none => exact nil (by omega)
  | some b => exact single hposition hfield hle (hstore b)

/-- **Members that store a record are read as it.** -/
theorem read_eq {empty : δ} {members : List (Label × Value)}
    (h : Stores layout 0 empty members stop stored) :
    layout.read empty (Value.map members).toTree = .ok stored := by
  obtain ⟨given, -, hstored⟩ := h [] (by simp)
  unfold Value.toTree Layout.read Layout.ofMembers
  dsimp only
  rw [hstored]
  rfl

end Stores

end Tablewright.Document
