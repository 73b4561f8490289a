/-
Reading a check back as comparisons.

A check on numbers is a text.  What it asks for is found by reading it: the column,
a sign with a blank on either side, a whole number in decimal, and then either the
end or `AND` and the next comparison.  A column may have any name, also one that
holds `AND` or a sign, so the text is not cut first; each comparison is read from
where the last one ended, and a number goes as far as its digits do.

Reading finds the comparisons that were written, whatever the column is called, and
no others.
-/
import Tablewright.Number
import Tablewright.Text.Join
import Tablewright.Proofs.Text.Digits

namespace Tablewright.Sql

/-- A comparison of a column with a whole number. -/
structure Comparison where
  /-- Whether the column is to be the greater one. -/
  above : Bool
  /-- Whether the two must differ. -/
  strict : Bool
  bound : Int
deriving DecidableEq

namespace Comparison

/-- The comparison holds where the column has this value. -/
def Holds (c : Comparison) (v : Int) : Prop :=
  match c.above, c.strict with
  | true, true => c.bound < v
  | true, false => c.bound ≤ v
  | false, true => v < c.bound
  | false, false => v ≤ c.bound

instance (c : Comparison) (v : Int) : Decidable (c.Holds v) :=
  match c with
  | ⟨true, true, bound⟩ => inferInstanceAs (Decidable (bound < v))
  | ⟨true, false, bound⟩ => inferInstanceAs (Decidable (bound ≤ v))
  | ⟨false, true, bound⟩ => inferInstanceAs (Decidable (v < bound))
  | ⟨false, false, bound⟩ => inferInstanceAs (Decidable (v ≤ bound))

theorem Holds.weaken {above strict : Bool} {bound v : Int} (h : Holds ⟨above, strict, bound⟩ v) :
    Holds ⟨above, false, bound⟩ v := by
  cases above <;> cases strict <;> (simp only [Holds] at h ⊢; omega)

/-- A number further from the bound keeps it as well. -/
theorem Holds.mono {above strict : Bool} {bound v w : Int} (h : Holds ⟨above, strict, bound⟩ v)
    (hw : if above then v ≤ w else w ≤ v) : Holds ⟨above, strict, bound⟩ w := by
  cases above <;> cases strict <;>
    (simp only [Holds, if_true, Bool.false_eq_true, if_false] at h hw ⊢; omega)

/-- The sign of a comparison. -/
def sign (above strict : Bool) : String :=
  match above, strict with
  | true, true => " > "
  | true, false => " >= "
  | false, true => " < "
  | false, false => " <= "

/-- The text of a comparison. -/
def text (column : String) (c : Comparison) : String :=
  column ++ sign c.above c.strict ++ String.ofList (Number.intText c.bound)

end Comparison

/-! ### Reading -/

/-- What stands behind a beginning. -/
def behind? (start cs : List Char) : Option (List Char) :=
  if start.isPrefixOf cs then some (cs.drop start.length) else none

/-- Reads a sign. -/
def sign? : List Char → Option ((Bool × Bool) × List Char)
  | ' ' :: '>' :: ' ' :: rest => some ((true, true), rest)
  | ' ' :: '>' :: '=' :: ' ' :: rest => some ((true, false), rest)
  | ' ' :: '<' :: ' ' :: rest => some ((false, true), rest)
  | ' ' :: '<' :: '=' :: ' ' :: rest => some ((false, false), rest)
  | _ => none

/-- Reads digits as far as they go. -/
def digits? (cs : List Char) : Option (Nat × List Char) := do
  let n ← Text.natural? 10 (cs.takeWhile Char.isDigit)
  some (n, cs.dropWhile Char.isDigit)

/-- Reads a whole number. -/
def integer? : List Char → Option (Int × List Char)
  | '-' :: cs => do
    let (n, rest) ← digits? cs
    some (-n, rest)
  | cs => do
    let (n, rest) ← digits? cs
    some (n, rest)

/-- Reads a comparison of the column. -/
def comparison? (column cs : List Char) : Option (Comparison × List Char) := do
  let cs ← behind? column cs
  let ((above, strict), cs) ← sign? cs
  let (bound, cs) ← integer? cs
  some (⟨above, strict, bound⟩, cs)

/-- The text is these comparisons of the column, with `AND` between them. -/
inductive Conjunction (column : List Char) : List Char → List Comparison → Prop
  | last {cs : List Char} {c : Comparison} (h : comparison? column cs = some (c, [])) :
      Conjunction column cs [c]
  | and {cs rest : List Char} {c : Comparison} {others : List Comparison}
      (h : comparison? column cs = some (c, " AND ".toList ++ rest))
      (more : Conjunction column rest others) : Conjunction column cs (c :: others)

/-- A value is admitted when every comparison holds that the check is read as; without a check
every value is. -/
def Admits (column : String) (check : Option String) (v : Int) : Prop :=
  ∀ expression, check = some expression →
    ∃ comparisons, Conjunction column.toList expression.toList comparisons ∧
      ∀ c ∈ comparisons, c.Holds v

/-! ### Reading what was written -/

theorem behind?_append (start cs : List Char) : behind? start (start ++ cs) = some cs := by
  rw [behind?, if_pos (List.isPrefixOf_iff_prefix.mpr (List.prefix_append start cs)),
    List.drop_left]

theorem sign?_append (above strict : Bool) (cs : List Char) :
    sign? ((Comparison.sign above strict).toList ++ cs) = some ((above, strict), cs) := by
  cases above <;> cases strict <;> rfl

theorem digits?_decimal (n : Nat) {rest : List Char} (h : ∀ c ∈ rest.head?, c.isDigit = false) :
    digits? (Nat.toDigits 10 n ++ rest) = some (n, rest) := by
  have hdigits : ∀ c ∈ Nat.toDigits 10 n, c.isDigit = true := fun _ => Text.isDigit_of_mem_decimal
  rw [digits?, Text.takeWhile_run hdigits h, Text.dropWhile_run hdigits h, Text.natural?_decimal]
  rfl

theorem integer?_intText (n : Int) {rest : List Char} (h : ∀ c ∈ rest.head?, c.isDigit = false) :
    integer? (Number.intText n ++ rest) = some (n, rest) := by
  unfold Number.intText
  split
  · rename_i hneg
    have hvalue : -(n.natAbs : Int) = n := by omega
    rw [List.cons_append, integer?, digits?_decimal _ h]
    show some (-(n.natAbs : Int), rest) = some (n, rest)
    rw [hvalue]
  · rename_i hnonneg
    have hvalue : (n.natAbs : Int) = n := by omega
    obtain ⟨first, more, hdecimal, hdigit⟩ := Text.exists_decimal_eq_cons n.natAbs
    have hread := digits?_decimal n.natAbs h
    have hminus : first ≠ '-' := Text.ne_of_isDigit hdigit (by decide)
    rw [hdecimal, List.cons_append] at hread ⊢
    rw [integer?, hread]
    · show some ((n.natAbs : Int), rest) = some (n, rest)
      rw [hvalue]
    · intro cs hcs
      exact hminus (List.cons.inj hcs).1

/-- A comparison is read where it was written, however the text goes on. -/
theorem comparison?_text (column : String) (c : Comparison) {rest : List Char}
    (h : ∀ d ∈ rest.head?, d.isDigit = false) :
    comparison? column.toList ((c.text column).toList ++ rest) = some (c, rest) := by
  rw [Comparison.text, String.toList_append, String.toList_append, String.toList_ofList,
    List.append_assoc, List.append_assoc, comparison?, behind?_append]
  simp only [Option.bind_eq_bind, Option.bind_some, sign?_append, integer?_intText c.bound h]

theorem Conjunction.unique {column cs : List Char} {one other : List Comparison}
    (hone : Conjunction column cs one) (hother : Conjunction column cs other) : one = other := by
  induction hone generalizing other with
  | last h =>
      cases hother with
      | last h' =>
          rw [h] at h'
          cases h'
          rfl
      | and h' more =>
          rw [h] at h'
          cases h'
  | and h _ ih =>
      cases hother with
      | last h' =>
          rw [h] at h'
          cases h'
      | and h' more =>
          rw [h] at h'
          obtain ⟨rfl, hrest⟩ := Prod.mk.inj (Option.some.inj h')
          rw [← List.append_cancel_left hrest] at more
          rw [ih more]

/-- **Comparisons with `AND` between them read back as those comparisons.** -/
theorem conjunction_join (column : String) {comparisons : List Comparison}
    (h : comparisons ≠ []) :
    Conjunction column.toList
      (Text.join " AND " (comparisons.map (·.text column))).toList comparisons := by
  induction comparisons with
  | nil => exact absurd rfl h
  | cons c others ih =>
      cases others with
      | nil =>
          refine .last ?_
          have hread : comparison? column.toList ((c.text column).toList ++ []) = some (c, []) :=
            comparison?_text column c (by simp)
          rwa [List.append_nil] at hread
      | cons next others =>
          refine .and ?_ (ih (by simp))
          have hjoin : Text.join " AND " ((c :: next :: others).map (·.text column))
              = c.text column ++ " AND "
                ++ Text.join " AND " ((next :: others).map (·.text column)) := rfl
          rw [hjoin, String.toList_append, String.toList_append, List.append_assoc]
          refine comparison?_text column c fun d hd => ?_
          obtain rfl : ' ' = d := Option.some.inj hd
          rfl

theorem admits_some_iff {column expression : String} {comparisons : List Comparison} {v : Int}
    (h : Conjunction column.toList expression.toList comparisons) :
    Admits column (some expression) v ↔ ∀ c ∈ comparisons, c.Holds v := by
  constructor
  · intro hadmits
    obtain ⟨found, hfound, hholds⟩ := hadmits _ rfl
    rwa [h.unique hfound]
  · rintro hholds text htext
    obtain rfl := Option.some.inj htext
    exact ⟨comparisons, h, hholds⟩

end Tablewright.Sql
