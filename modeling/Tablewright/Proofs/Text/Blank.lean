/-
White space at the ends of a text.

Trimming is undone by blanks in front of a text that begins and ends with a
character of its own.  The first and the last character are all that matters of
it, so both ends may be looked at apart from each other, and from the parts that a
text was put together from.
-/
import Tablewright.Text.Blank

namespace Tablewright.Text

theorem isBlank_append (s t : String) : isBlank (s ++ t) = (isBlank s && isBlank t) := by
  rw [isBlank, String.toList_append, List.all_append]
  rfl

/-- The text begins with a character that is not blank. -/
def Begins (s : String) : Prop :=
  ∃ c rest, s.toList = c :: rest ∧ isBlankChar c = false

/-- The text ends with a character that is not blank. -/
def Ends (s : String) : Prop :=
  ∃ rest c, s.toList = rest ++ [c] ∧ isBlankChar c = false

theorem Begins.append {s : String} (h : Begins s) (t : String) : Begins (s ++ t) := by
  obtain ⟨c, rest, hs, hc⟩ := h
  exact ⟨c, rest ++ t.toList, by rw [String.toList_append, hs, List.cons_append], hc⟩

theorem Ends.append {t : String} (s : String) (h : Ends t) : Ends (s ++ t) := by
  obtain ⟨rest, c, ht, hc⟩ := h
  exact ⟨s.toList ++ rest, c, by rw [String.toList_append, ht, List.append_assoc], hc⟩

theorem dropWhile_blanks {gap rest : List Char} {c : Char} (hgap : gap.all isBlankChar = true)
    (hc : isBlankChar c = false) : (gap ++ c :: rest).dropWhile isBlankChar = c :: rest := by
  rw [List.dropWhile_append_of_pos (List.all_eq_true.mp hgap), List.dropWhile_cons, hc]
  rfl

/-- Trimming takes away the blanks in front, and no more. -/
theorem trim_append {gap s : String} (hgap : isBlank gap = true) (hbegins : Begins s)
    (hends : Ends s) : trim (gap ++ s) = s := by
  obtain ⟨first, behind, hfirst, hfirst'⟩ := hbegins
  obtain ⟨before, last, hlast, hlast'⟩ := hends
  have hfront : (gap ++ s).toList.dropWhile isBlankChar = s.toList := by
    rw [String.toList_append, hfirst, dropWhile_blanks hgap hfirst']
  have hback : s.toList.reverse.dropWhile isBlankChar = s.toList.reverse := by
    have hnone : ([] : List Char).all isBlankChar = true := rfl
    rw [hlast, List.reverse_append]
    exact dropWhile_blanks hnone hlast'
  simp only [trim, hfront, hback, List.reverse_reverse, String.ofList_toList]

/-- Nothing is left of a blank text. -/
theorem trim_of_isBlank {s : String} (h : isBlank s = true) : trim s = "" := by
  have hfront : s.toList.dropWhile isBlankChar = [] := by
    rw [← List.append_nil s.toList, List.dropWhile_append_of_pos (List.all_eq_true.mp h)]
    rfl
  unfold trim
  rw [hfront]
  rfl

end Tablewright.Text
