/-
Statements are balanced.

A statement takes names, types, defaults and checks over as they stand, and puts
every other text into a constant.  So it is balanced as soon as the former are,
whatever the members of a type and the content of a comment hold.  The proof goes
part by part: a text put together from balanced parts is balanced.
-/
import Tablewright.Proofs.Number
import Tablewright.Proofs.Script
import Tablewright.Proofs.Sql.Statement
import Tablewright.Proofs.Text.UpperCase

namespace Tablewright

open Sql (Balanced)

/-! ### Parts that are always balanced -/

/-- Upper case leaves quotes and semicolons where they are. -/
theorem Sql.balanced_upper {s : String} (hs : Balanced s) : Balanced (Text.upper s) := by
  have hchars : ∀ (chars : List Char) (quoted : Bool),
      balancedFrom quoted (chars.flatMap Text.upperChar) = balancedFrom quoted chars := by
    intro chars
    induction chars with
    | nil => intro quoted; rfl
    | cons c rest ih =>
        intro quoted
        rw [List.flatMap_cons]
        by_cases hc : c.toNat < 0x41
        · rw [Text.upperChar_of_lt hc, List.singleton_append, balancedFrom, balancedFrom, ih, ih]
        · have hplain : ∀ d : Char, 0x41 ≤ d.toNat → d ≠ '\'' ∧ d ≠ ';' := by
            intro d hd
            constructor
            · rintro rfl
              exact absurd hd (by decide)
            · rintro rfl
              exact absurd hd (by decide)
          have hupper : Plain (Text.upperChar c) := fun d hd =>
            hplain d (Text.le_toNat_of_mem_upperChar (by omega) hd)
          have hself : Plain [c] := fun d hd =>
            hplain d (by rw [List.mem_singleton.mp hd]; omega)
          rw [balancedFrom_plain hupper, ih, ← List.singleton_append, balancedFrom_plain hself]
  unfold Balanced Text.upper
  rw [String.toList_ofList, hchars]
  exact hs

/-- No digit and no sign of a number is a quote or a semicolon. -/
theorem Sql.balanced_of_numeric {s : String} (h : ∀ c ∈ s.toList, Numeric c) : Balanced s := by
  apply balanced_of_plain
  intro c hc
  constructor
  · rintro rfl
    exact absurd (h _ hc) (by decide)
  · rintro rfl
    exact absurd (h _ hc) (by decide)

theorem Number.balanced_text (n : Number) : Balanced n.text :=
  Sql.balanced_of_numeric n.numeric_text

theorem balanced_toString (n : Nat) : Balanced (toString n) := by
  apply Sql.balanced_of_numeric
  have hchars : (toString n).toList = Nat.toDigits 10 n := String.toList_ofList
  rw [hchars]
  exact numeric_toDigits n

/-- A literal is balanced where it stands bare, unless it is a text that is not. -/
theorem Literal.balanced_display {l : Literal} (h : ∀ s, l = .text s → Balanced s) :
    Balanced l.display := by
  cases l with
  | flag value => cases value <;> decide
  | number n => exact n.balanced_text
  | text s => exact h s rfl

/-- **Every literal is balanced as an SQL value.** -/
theorem Literal.balanced_sql (l : Literal) : Balanced l.sql := by
  cases l with
  | flag value => cases value <;> decide
  | number n => exact n.balanced_text
  | text s => exact Sql.balanced_quote s

theorem Script.balanced_members (literals : List Literal) : Balanced (Script.members literals) := by
  apply Sql.balanced_join (by decide)
  intro s hs
  obtain ⟨l, _, rfl⟩ := List.mem_map.mp hs
  exact l.balanced_sql

/-! ### Columns -/

/-- What a script takes over from a column as it stands is balanced. -/
structure Column.Balanced (c : Column) : Prop where
  name : Sql.Balanced c.name
  type : Sql.Balanced c.type
  default : ∀ s, c.default = some (.text s) → Sql.Balanced s
  check : ∀ s, c.check = some s → Sql.Balanced s

namespace Script

theorem balanced_constraints {c : Column} (hc : c.Balanced) :
    ∀ s ∈ constraints c, Balanced s := by
  intro s hs
  have hword : ∀ (present : Bool) (word : String), Balanced word →
      s ∈ (if present then [word] else []) → Balanced s := by
    intro present word hword hs
    split at hs
    · rw [List.mem_singleton.mp hs]
      exact hword
    · exact absurd hs (by simp)
  simp only [constraints, List.mem_append] at hs
  rcases hs with (((hs | hs) | hs) | hs) | hs
  · exact hword _ _ (by decide) hs
  · exact hword _ _ (by decide) hs
  · exact hword _ _ (by decide) hs
  · obtain ⟨value, hvalue, rfl⟩ := Option.map_eq_some_iff.mp (Option.mem_toList.mp hs)
    refine Balanced.append (by decide) (Literal.balanced_display ?_)
    rintro text rfl
    exact hc.default text hvalue
  · obtain ⟨check, hcheck, rfl⟩ := Option.map_eq_some_iff.mp (Option.mem_toList.mp hs)
    exact Balanced.append (by decide) (hc.check check (Option.mem_filter_iff.mp hcheck).1)

theorem balanced_columnText {c : Column} (hc : c.Balanced) : Balanced (columnText c) := by
  apply Sql.balanced_join (by decide)
  intro s hs
  rcases List.mem_cons.mp hs with rfl | hs
  · exact hc.name
  rcases List.mem_cons.mp hs with rfl | hs
  · exact Sql.balanced_upper hc.type
  · exact balanced_constraints hc s hs

end Script

/-! ### Statements -/

/-- What a script takes over from a blueprint as it stands is balanced. -/
structure Blueprint.Balanced (b : Blueprint) : Prop where
  types : ∀ t ∈ b.types, Sql.Balanced t.name
  tables : ∀ t ∈ b.tables, Sql.Balanced t.name
  columns : ∀ t ∈ b.tables, ∀ c ∈ t.columns, c.Balanced
  comments : ∀ c ∈ b.comments, Sql.Balanced c.target

namespace Script

theorem balanced_createTable {t : Table} (hname : Balanced t.name)
    (hcolumns : ∀ c ∈ t.columns, c.Balanced) : Balanced (Statement.createTable t).text := by
  have hall : Balanced (Text.join ",\n  " (t.columns.map columnText)) := by
    apply Sql.balanced_join (by decide)
    intro s hs
    obtain ⟨c, hc, rfl⟩ := List.mem_map.mp hs
    exact balanced_columnText (hcolumns c hc)
  show Balanced (if _ then _ else _)
  split
  · exact (Balanced.append (by decide) hname).append (by decide)
  · exact (((Balanced.append (by decide) hname).append (by decide)).append hall).append (by decide)

/-- **Every statement of a plan is balanced, whatever members and comments hold.** -/
theorem balanced_plan {schemaName : String} {b : Blueprint} (hschema : Balanced schemaName)
    (hb : b.Balanced) : ∀ s ∈ plan schemaName b, Balanced s.text := by
  intro s hs
  simp only [plan, List.mem_append, List.mem_cons, List.mem_map, List.not_mem_nil, or_false] at hs
  rcases hs with (((((rfl | rfl) | ⟨t, ht, rfl⟩) | ⟨t, ht, rfl⟩) | ⟨c, hc, rfl⟩) | rfl)
  · show Balanced "BEGIN"; decide
  · exact (Balanced.append (by decide) hschema).append (by decide)
  · exact (((Balanced.append (by decide) (hb.types t ht)).append (by decide)).append
      (balanced_members t.members)).append (by decide)
  · exact balanced_createTable (hb.tables t ht) (hb.columns t ht)
  · have hkeyword : Balanced c.kind.keyword := by cases c.kind <;> decide
    exact ((((Balanced.append (by decide) hkeyword).append (by decide)).append
      (hb.comments c hc)).append (by decide)).append (Sql.balanced_quote c.content)
  · show Balanced "COMMIT"; decide

end Script

end Tablewright
