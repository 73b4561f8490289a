/-
Columns that were written read back.

A column is written in the order of its fields, and a constraint that is not set is
left out.  So every field is read at most once, and what is left out stays as it is
in the empty column.
-/
import Tablewright.Column
import Tablewright.Proofs.Document.Record

namespace Tablewright

open Document

theorem Literal.plain_toValue {l : Literal} (h : ∀ x, l ≠ .number (.binary x)) (levels : Nat) :
    l.toValue.Plain levels := by
  cases l with
  | flag value => exact .scalar (.flag value)
  | number value =>
      cases value with
      | whole value fits => exact .scalar (.number value fits)
      | binary x => exact absurd rfl (h x)
  | text value => exact .scalar (.text value)

namespace Column

/-- The default of a column is no double: where it is a number, it is a whole one. -/
def WholeDefault (c : Column) : Prop :=
  ∀ x, c.default ≠ some (.number (.binary x))

theorem plain_toValue {c : Column} (h : c.WholeDefault) (levels : Nat) :
    c.toValue.Plain (levels + 1) := by
  have hflag (b : Bool) : Value.Plain levels (.scalar (.flag b)) := .scalar (.flag b)
  have htext (s : String) : Value.Plain levels (.scalar (.text s)) := .scalar (.text s)
  have hfixed : ∀ member ∈ [(Label.name "name", Value.scalar (.text c.name)),
      (.name "type", .scalar (.text c.type))], PlainMember levels member := by
    simp [plainMember_name, htext]
  refine Value.plain_map ?_
  simp only [List.forall_mem_append]
  refine ⟨⟨⟨⟨⟨hfixed, ?_⟩, ?_⟩, ?_⟩, ?_⟩, ?_⟩
  · exact plainMember_optional fun b _ => hflag b
  · exact plainMember_optional fun b _ => hflag b
  · exact plainMember_optional fun b _ => hflag b
  · exact plainMember_optional fun l hl => Literal.plain_toValue (fun x hx => h x (hx ▸ hl)) levels
  · exact plainMember_optional fun s _ => htext s

/-- **A column is read from the tree it is written as.** -/
theorem read_toValue (c : Column) : Column.read c.toValue.toTree = .ok c := by
  obtain ⟨name, type, primaryKey, nullable, unique, default, check⟩ := c
  have hname : Stores layout 0 {} [(.name "name", .scalar (.text name))] 1 { name } :=
    Stores.single rfl rfl (by omega) rfl
  have htype : Stores layout 1 { name } [(.name "type", .scalar (.text type))] 2 { name, type } :=
    Stores.single rfl rfl (by omega) rfl
  have hprimaryKey : Stores layout 2 { name, type }
      (primaryKey.map fun b => (.name "primaryKey", .scalar (.flag b))).toList 3
      { name, type, primaryKey } :=
    Stores.optional (δ := Column) (fun given => { name, type, primaryKey := given }) primaryKey rfl rfl
      (by omega) fun b => rfl
  have hnullable : Stores layout 3 { name, type, primaryKey }
      (nullable.map fun b => (.name "nullable", .scalar (.flag b))).toList 4
      { name, type, primaryKey, nullable } :=
    Stores.optional (δ := Column) (fun given => { name, type, primaryKey, nullable := given }) nullable rfl rfl
      (by omega) fun b => rfl
  have hunique : Stores layout 4 { name, type, primaryKey, nullable }
      (unique.map fun b => (.name "unique", .scalar (.flag b))).toList 5
      { name, type, primaryKey, nullable, unique } :=
    Stores.optional (δ := Column) (fun given => { name, type, primaryKey, nullable, unique := given }) unique
      rfl rfl (by omega) fun b => rfl
  have hdefault : Stores layout 5 { name, type, primaryKey, nullable, unique }
      (default.map fun l => (.name "default", l.toValue)).toList 6
      { name, type, primaryKey, nullable, unique, default } :=
    Stores.optional (δ := Column) (fun given => { name, type, primaryKey, nullable, unique, default := given })
      default rfl rfl (by omega) fun l => by cases l <;> rfl
  have hcheck : Stores layout 6 { name, type, primaryKey, nullable, unique, default }
      (check.map fun s => (.name "check", .scalar (.text s))).toList 7
      { name, type, primaryKey, nullable, unique, default, check } :=
    Stores.optional (δ := Column) (fun given => ⟨name, type, primaryKey, nullable, unique, default, given⟩)
      check rfl rfl (by omega) fun s => rfl
  have hwritten := (((((hname.append htype).append hprimaryKey).append hnullable).append
    hunique).append hdefault).append hcheck
  exact hwritten.read_eq

end Column

end Tablewright
