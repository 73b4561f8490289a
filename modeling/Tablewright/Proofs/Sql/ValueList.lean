/-
Reading a list of values back.

A list of values stands in parentheses, with a comma and a blank between any two of
them.  A value is a string constant, which goes to the first quote that is not
doubled, or a bare word, which goes to the first character that no word has.  So the
reader knows where a value ends without looking for commas: those inside a constant
are never met as separators.
-/
import Tablewright.Text.Join
import Tablewright.Proofs.Sql.Quoted
import Tablewright.Proofs.Text.Digits

namespace Tablewright.Sql

/-- A value as it is read: a string constant, by the text it stands for, or a bare word. -/
inductive Token
  | constant (text : String)
  | word (letters : String)
deriving DecidableEq

/-- Whether a bare word may have this character: no quote, no blank and no mark of the list. -/
def isWordChar (c : Char) : Bool :=
  c ≠ '\'' && c ≠ ' ' && c ≠ ',' && c ≠ '(' && c ≠ ')'

/-- Reads a value. -/
def value? (cs : List Char) : Option (Token × List Char) :=
  match scan cs with
  | some (text, rest) => some (.constant (String.ofList text), rest)
  | none =>
    if cs.takeWhile isWordChar = [] then none
    else some (.word (String.ofList (cs.takeWhile isWordChar)), cs.dropWhile isWordChar)

/-! ### Every value takes some of the text -/

theorem length_of_scan {cs value rest : List Char} (h : scan cs = some (value, rest)) :
    rest.length < cs.length := by
  obtain ⟨rfl, -⟩ := scan_eq_some_iff.mp h
  simp only [List.length_cons, List.length_append]
  omega

theorem length_of_value? {cs rest : List Char} {token : Token}
    (h : value? cs = some (token, rest)) : rest.length < cs.length := by
  unfold value? at h
  split at h
  · rename_i text after hscan
    obtain ⟨-, rfl⟩ := Prod.mk.inj (Option.some.inj h)
    exact length_of_scan hscan
  · split at h
    · cases h
    · rename_i hword
      obtain ⟨-, rfl⟩ := Prod.mk.inj (Option.some.inj h)
      have hlength : (cs.takeWhile isWordChar).length + (cs.dropWhile isWordChar).length = cs.length := by
        rw [← List.length_append, List.takeWhile_append_dropWhile]
      have hpos : 0 < (cs.takeWhile isWordChar).length := List.length_pos_iff.mpr hword
      omega

/-! ### Lists -/

/-- Reads values up to the closing parenthesis; gives the text behind it. -/
def values? (cs : List Char) : Option (List Token × List Char) :=
  match _h : value? cs with
  | some (token, ',' :: ' ' :: rest) =>
    (values? rest).map fun (tokens, after) => (token :: tokens, after)
  | some (token, ')' :: rest) => some ([token], rest)
  | _ => none
termination_by cs.length
decreasing_by
  have hlt := length_of_value? ‹_›
  simp only [List.length_cons] at hlt
  omega

/-- Reads a list of values. -/
def valueList? : List Char → Option (List Token × List Char)
  | '(' :: ')' :: rest => some ([], rest)
  | '(' :: rest => values? rest
  | _ => none

theorem values?_comma {cs rest : List Char} {token : Token}
    (h : value? cs = some (token, ',' :: ' ' :: rest)) :
    values? cs = (values? rest).map fun (tokens, after) => (token :: tokens, after) := by
  rw [values?]
  split
  · rename_i heq
    rw [h] at heq
    cases heq
    rfl
  · rename_i heq
    rw [h] at heq
    cases heq
  · rename_i hcomma _
    exact absurd h (hcomma token rest)

theorem values?_close {cs rest : List Char} {token : Token}
    (h : value? cs = some (token, ')' :: rest)) : values? cs = some ([token], rest) := by
  rw [values?]
  split
  · rename_i heq
    rw [h] at heq
    cases heq
  · rename_i heq
    rw [h] at heq
    cases heq
    rfl
  · rename_i hclose
    exact absurd h (hclose token rest)

theorem values?_empty (rest : List Char) : values? (')' :: rest) = none := by
  have hnone : value? (')' :: rest) = none := rfl
  rw [values?]
  split
  · rename_i heq
    rw [hnone] at heq
    cases heq
  · rename_i heq
    rw [hnone] at heq
    cases heq
  · rfl

/-- Behind the opening parenthesis of a list that is not empty stand its values. -/
theorem valueList?_of_values? {cs rest : List Char} {tokens : List Token}
    (h : values? cs = some (tokens, rest)) : valueList? ('(' :: cs) = some (tokens, rest) := by
  unfold valueList?
  split
  · rename_i heq
    rw [(List.cons.inj heq).2, values?_empty] at h
    cases h
  · rename_i heq
    rw [← (List.cons.inj heq).2, h]
  · rename_i hother
    exact absurd rfl (hother cs)

/-! ### Reading what was written -/

/-- What no word has comes behind a value. -/
def EndsValue (rest : List Char) : Prop :=
  ∃ c after, rest = c :: after ∧ (c = ',' ∨ c = ')')

theorem value?_quote (s : String) {rest : List Char} (h : EndsValue rest) :
    value? ((quote s).toList ++ rest) = some (.constant s, rest) := by
  have hrest : ∀ c ∈ rest.head?, c ≠ '\'' := by
    obtain ⟨c, after, rfl, rfl | rfl⟩ := h <;> simp
  rw [value?, scan_quote s hrest]
  simp [String.ofList_toList]

theorem value?_word {letters : String} (hne : letters ≠ "")
    (hword : ∀ c ∈ letters.toList, isWordChar c = true) {rest : List Char} (h : EndsValue rest) :
    value? (letters.toList ++ rest) = some (.word letters, rest) := by
  have hrest : ∀ c ∈ rest.head?, isWordChar c = false := by
    obtain ⟨c, after, rfl, rfl | rfl⟩ := h <;> simp [isWordChar]
  have hchars : letters.toList ≠ [] := by
    simpa using hne
  have hscan : scan (letters.toList ++ rest) = none := by
    obtain ⟨c, cs, hcs⟩ := List.exists_cons_of_ne_nil hchars
    have hc : c ≠ '\'' := by
      have hc := hword c (by simp [hcs])
      rintro rfl
      exact absurd hc (by decide)
    rw [hcs, List.cons_append, scan, if_neg hc]
  rw [value?, hscan, Text.takeWhile_run hword hrest, Text.dropWhile_run hword hrest]
  simp [hne, String.ofList_toList]

/-- **Values with commas between them are read one by one**, whatever texts they are written as, as
long as each is read where it was written. -/
theorem values?_join {α : Type} {write : α → String} {token : α → Token}
    (hread : ∀ a rest, EndsValue rest →
      value? ((write a).toList ++ rest) = some (token a, rest))
    {l : List α} (h : l ≠ []) (rest : List Char) :
    values? ((Text.join ", " (l.map write)).toList ++ ')' :: rest) = some (l.map token, rest) := by
  induction l with
  | nil => exact absurd rfl h
  | cons a others ih =>
      cases others with
      | nil => exact values?_close (hread a _ ⟨')', rest, rfl, .inr rfl⟩)
      | cons next others =>
          have hnext := ih (by simp)
          generalize hbehind : (Text.join ", " ((next :: others).map write)).toList ++ ')' :: rest
            = behind at hnext
          have hjoin : Text.join ", " ((a :: next :: others).map write)
              = write a ++ ", " ++ Text.join ", " ((next :: others).map write) := rfl
          have hfirst : value? ((write a).toList ++ ',' :: ' ' :: behind)
              = some (token a, ',' :: ' ' :: behind) := hread a _ ⟨',', _, rfl, .inl rfl⟩
          rw [hjoin, String.toList_append, String.toList_append, List.append_assoc,
            List.append_assoc, hbehind]
          exact (values?_comma hfirst).trans (by rw [hnext]; rfl)

theorem valueList?_join {α : Type} {write : α → String} {token : α → Token}
    (hread : ∀ a rest, EndsValue rest →
      value? ((write a).toList ++ rest) = some (token a, rest))
    (l : List α) (rest : List Char) :
    valueList? ('(' :: ((Text.join ", " (l.map write)).toList ++ ')' :: rest))
      = some (l.map token, rest) := by
  cases l with
  | nil => rfl
  | cons a others => exact valueList?_of_values? (values?_join hread (by simp) rest)

end Tablewright.Sql
