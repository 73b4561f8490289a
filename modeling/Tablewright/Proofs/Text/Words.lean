/-
The words of a text.

Single spaces separate them, and two spaces in a row have an empty word between
them, so that nothing of a text is lost in its words.  Spaces are signs: upper case
neither makes nor takes away any, and the words of an upper case are the upper cases
of the words.
-/
import Tablewright.Proofs.Text.UpperCase
import Tablewright.Text.Join

namespace Tablewright.Text

/-- The words of a text, with an empty one wherever no character stands between spaces. -/
def words (s : String) : List String :=
  (s.toList.splitOn ' ').map String.ofList

theorem splitOn_of_notMem {word : List Char} (h : ' ' ∉ word) : word.splitOn ' ' = [word] := by
  refine List.splitOnP_eq_singleton fun c hc => ?_
  rw [beq_eq_false_iff_ne]
  rintro rfl
  exact h hc

theorem words_of_notMem {s : String} (h : ' ' ∉ s.toList) : words s = [s] := by
  rw [words, splitOn_of_notMem h, List.map_singleton, String.ofList_toList]

theorem splitOn_append (front back : List Char) :
    (front ++ ' ' :: back).splitOn ' ' = front.splitOn ' ' ++ back.splitOn ' ' :=
  List.splitOnP_append_cons front back rfl

/-- A space ends a word. -/
theorem words_append (s t : String) : words (s ++ " " ++ t) = words s ++ words t := by
  have htext : (s ++ " " ++ t).toList = s.toList ++ ' ' :: t.toList := by
    simp
  rw [words, htext, splitOn_append, List.map_append]
  rfl

/-- **A text is known by its words.** -/
theorem words_injective : Function.Injective words := by
  intro s t h
  have hsplit : s.toList.splitOn ' ' = t.toList.splitOn ' ' :=
    List.map_injective_iff.mpr (fun _ _ hlist => String.ofList_inj.mp hlist) h
  have hjoined := congrArg ([' '].intercalate ·) hsplit
  simp only [List.intercalate_splitOn] at hjoined
  exact String.toList_inj.mp hjoined

/-- Texts that are joined keep their words. -/
theorem words_join {texts : List String} (h : texts ≠ []) :
    words (join " " texts) = texts.flatMap words := by
  induction texts with
  | nil => exact absurd rfl h
  | cons s rest ih =>
      cases rest with
      | nil => simp [join]
      | cons t others =>
          have hjoin : join " " (s :: t :: others) = s ++ " " ++ join " " (t :: others) := rfl
          rw [hjoin, words_append, ih (List.cons_ne_nil t others)]
          rfl

/-- Only the space has a space in its upper case. -/
theorem space_notMem_upperChar {c : Char} (h : c ≠ ' ') : ' ' ∉ upperChar c := by
  intro hmem
  by_cases hc : c.toNat < 0x41
  · rw [upperChar_of_lt hc, List.mem_singleton] at hmem
    exact h hmem.symm
  · exact absurd (le_toNat_of_mem_upperChar (Nat.le_of_not_lt hc) hmem) (by decide)

theorem space_notMem_upper {cs : List Char} (h : ' ' ∉ cs) : ' ' ∉ cs.flatMap upperChar := by
  intro hmem
  obtain ⟨c, hc, hspace⟩ := List.mem_flatMap.mp hmem
  refine space_notMem_upperChar ?_ hspace
  rintro rfl
  exact h hc

/-- Upper case keeps the spaces behind a first word, which may have been begun. -/
theorem splitOn_flatMap_upperChar (begun cs : List Char) (h : ' ' ∉ begun) :
    ((begun ++ cs).flatMap upperChar).splitOn ' '
      = ((begun ++ cs).splitOn ' ').map (·.flatMap upperChar) := by
  induction cs generalizing begun with
  | nil => simp [splitOn_of_notMem h, splitOn_of_notMem (space_notMem_upper h)]
  | cons c rest ih =>
      by_cases hc : c = ' '
      · have hspace : upperChar ' ' = [' '] := upperChar_of_lt (by decide)
        have hrest := ih [] (by simp)
        simp only [List.nil_append] at hrest
        rw [hc, List.flatMap_append, List.flatMap_cons, hspace, List.singleton_append,
          splitOn_append, splitOn_append, hrest, List.map_append, splitOn_of_notMem h,
          splitOn_of_notMem (space_notMem_upper h), List.map_singleton]
      · have hbegun : ' ' ∉ begun ++ [c] := by
          simp [h, Ne.symm hc]
        have hrest := ih (begun ++ [c]) hbegun
        rwa [List.append_assoc, List.singleton_append] at hrest

/-- **The words of an upper case are the upper cases of the words.** -/
theorem words_upper (s : String) : words (upper s) = (words s).map upper := by
  have hsplit := splitOn_flatMap_upperChar [] s.toList (by simp)
  simp only [List.nil_append] at hsplit
  unfold words
  rw [upper, String.toList_ofList, hsplit, List.map_map, List.map_map]
  refine List.map_congr_left fun word _ => ?_
  simp [upper]

end Tablewright.Text
