/-
What the text of a number is made of.

Digits, a point, the letter of an exponent and signs are all there is to it.  The
digits are given as a list, and padding and cutting such a list leaves digits.
-/
import Tablewright.Number

namespace Tablewright

/-- Whether a character may stand in the text of a number. -/
def Numeric (c : Char) : Prop :=
  c.isDigit = true ∨ c ∈ ['-', '+', '.', 'e']

instance (c : Char) : Decidable (Numeric c) :=
  inferInstanceAs (Decidable (_ ∨ _))

theorem numeric_toDigits (n : Nat) : ∀ c ∈ Nat.toDigits 10 n, Numeric c :=
  fun _ hc => Or.inl (Nat.isDigit_of_mem_toDigits (by decide) (by decide) hc)

theorem numeric_replicate_zero (n : Nat) : ∀ c ∈ List.replicate n '0', Numeric c := by
  intro c hc
  rw [(List.mem_replicate.mp hc).2]
  exact Or.inl (by decide)

namespace Number

variable {digits : List Char}

theorem numeric_pointed (h : ∀ c ∈ digits, Numeric c) (leading : Int) :
    ∀ c ∈ pointed digits leading, Numeric c := by
  intro c hc
  unfold pointed at hc
  split at hc
  · rcases List.mem_cons.mp hc with rfl | hc
    · exact Or.inl (by decide)
    rcases List.mem_cons.mp hc with rfl | hc
    · exact Or.inr (by decide)
    rcases List.mem_append.mp hc with hc | hc
    · exact numeric_replicate_zero _ c hc
    · exact h c hc
  · rcases List.mem_append.mp hc with hc | hc
    · rcases List.mem_append.mp hc with hc | hc
      · exact h c (List.mem_of_mem_take hc)
      · exact numeric_replicate_zero _ c hc
    rcases List.mem_cons.mp hc with rfl | hc
    · exact Or.inr (by decide)
    split at hc
    · rw [List.mem_singleton.mp hc]
      exact Or.inl (by decide)
    · exact h c (List.mem_of_mem_drop hc)

theorem numeric_scientific (h : ∀ c ∈ digits, Numeric c) (leading : Int) :
    ∀ c ∈ scientific digits leading, Numeric c := by
  intro c hc
  unfold scientific at hc
  rcases List.mem_append.mp hc with hc | hc
  · split at hc
    · simp only [List.mem_cons] at hc h
      rcases hc with rfl | rfl | rfl | hc
      · exact h _ (by simp)
      · exact Or.inr (by decide)
      · exact h _ (by simp)
      · exact h c (by simp [hc])
    · exact h c hc
  · rcases List.mem_cons.mp hc with rfl | hc
    · exact Or.inr (by decide)
    rcases List.mem_cons.mp hc with rfl | hc
    · split
      · exact Or.inr (by decide)
      · exact Or.inr (by decide)
    · exact numeric_toDigits _ c hc

theorem numeric_magnitudeText (x : Binary64) : ∀ c ∈ magnitudeText x, Numeric c := by
  have hzero : Numeric '0' := Or.inl (by decide)
  have hpoint : Numeric '.' := Or.inr (by decide)
  rw [magnitudeText]
  split
  · simp [hzero, hpoint]
  · simp only []
    split
    · exact numeric_pointed (numeric_toDigits _) _
    · exact numeric_scientific (numeric_toDigits _) _

theorem numeric_minus (h : ∀ c ∈ digits, Numeric c) : ∀ c ∈ '-' :: digits, Numeric c := by
  intro c hc
  rcases List.mem_cons.mp hc with rfl | hc
  · exact Or.inr (by decide)
  · exact h c hc

/-- **Digits, a point, the letter of an exponent and signs make up the text of a number.** -/
theorem numeric_text (n : Number) : ∀ c ∈ n.text.toList, Numeric c := by
  cases n with
  | whole value _ =>
      rw [text, String.toList_ofList, intText]
      split
      · exact numeric_minus (numeric_toDigits _)
      · exact numeric_toDigits _
  | binary x =>
      rw [text, String.toList_ofList]
      split
      · exact numeric_minus (numeric_magnitudeText x)
      · exact numeric_magnitudeText x

theorem intText_ne_nil (value : Int) : intText value ≠ [] := by
  unfold intText
  split
  · simp
  · exact Nat.toDigits_ne_nil

theorem magnitudeText_ne_nil (x : Binary64) : magnitudeText x ≠ [] := by
  unfold magnitudeText
  split
  · simp
  · dsimp only
    split
    · unfold pointed
      split <;> simp
    · simp [scientific]

theorem text_ne_empty (n : Number) : n.text ≠ "" := by
  have hchars : n.text.toList ≠ [] := by
    cases n with
    | whole value _ =>
        rw [text, String.toList_ofList]
        exact intText_ne_nil value
    | binary x =>
        rw [text, String.toList_ofList]
        split
        · simp
        · exact magnitudeText_ne_nil x
  exact fun h => hchars (by rw [h]; rfl)

end Number

end Tablewright
