/-
Whole numbers read back.

The digits of a number of 64 bits all find room in the significand, and a text
that goes on with a mark of a container ends the literal there.  So a whole number
is scanned as it was written, without a fraction or an exponent, and is the one it
was.
-/
import Tablewright.Json.Token
import Tablewright.Proofs.Result
import Tablewright.Proofs.Text.Digits

namespace Tablewright.Json

open Document

/-- A text that ends a literal: it goes on with a comma or with the end of a container. -/
def EndsLiteral (rest : List Char) : Prop :=
  ∀ c ∈ rest.head?, c = ',' ∨ c = ']' ∨ c = '\x7d'

theorem endsLiteral_nil : EndsLiteral [] := by
  intro c hc
  cases hc

theorem endsLiteral_cons {c : Char} (h : c = ',' ∨ c = ']' ∨ c = '\x7d') (rest : List Char) :
    EndsLiteral (c :: rest) := by
  intro d hd
  cases hd
  exact h

/-! ### Values of literals -/

/-- A number of 64 bits is gathered without dropping a digit. -/
theorem gathered_decimal {n : Nat} (h : n < Nat.pow 2 64) :
    Gathered.digits 0 (Nat.toDigits 10 n) = ⟨n, 0⟩ := by
  have hpush (m d : Nat) (hd : d < 10) (hlt : 10 * m + d < Nat.pow 2 64) :
      Gathered.push ⟨m, 0⟩ (Nat.digitChar d) = ⟨10 * m + d, 0⟩ := by
    have hdigit : ∀ k : Fin 10, Text.digitValue (Nat.digitChar k) = k.val := by decide
    have hvalue : Text.digitValue (Nat.digitChar d) = d := hdigit ⟨d, hd⟩
    unfold Gathered.push
    dsimp only
    rw [hvalue, if_pos (by simpa using hlt)]
  induction n using Nat.strongRecOn with
  | ind n ih =>
      by_cases hn : n < 10
      · have hone := hpush 0 n hn (by omega)
        rw [Nat.mul_zero, Nat.zero_add] at hone
        rw [Nat.toDigits_of_lt_base hn]
        exact hone
      · have hfront := ih (n / 10) (by omega) (by omega)
        have hlast : 10 * (n / 10) + n % 10 = n := Nat.div_add_mod n 10
        unfold Gathered.digits at hfront ⊢
        rw [Nat.toDigits_of_base_le (by decide) (by omega), List.foldl_append, hfront]
        have hpushed := hpush (n / 10) (n % 10) (by omega) (by omega)
        rw [hlast] at hpushed
        exact hpushed

theorem number?_decimal {value : Int} (fits : -wordHalf ≤ value ∧ value < wordSize) :
    Numeral.number? ⟨value < 0, Nat.toDigits 10 value.natAbs, none, none⟩
      = some (.whole value fits) := by
  have hlt : value.natAbs < Nat.pow 2 64 := by
    have hpow : Nat.pow 2 64 = 18446744073709551616 := by decide
    unfold wordHalf wordSize at fits
    omega
  have hofInt : Number.ofInt? value = some (.whole value fits) := dif_pos fits
  unfold Numeral.number?
  rw [gathered_decimal hlt]
  dsimp only
  rw [if_pos rfl]
  by_cases hneg : value < 0
  · have hvalue : -(value.natAbs : Int) = value := by omega
    have hzero : value.natAbs ≠ 0 := by omega
    rw [if_pos (decide_eq_true hneg), if_neg hzero, hvalue, hofInt]
    rfl
  · have hvalue : (value.natAbs : Int) = value := by omega
    rw [if_neg (by simpa using hneg), hvalue, hofInt]

/-! ### Scanning literals -/

section

variable {rest : List Char} (h : EndsLiteral rest)

include h

theorem scanFraction_of_endsLiteral : scanFraction rest = .ok (none, rest) := by
  cases rest with
  | nil => rfl
  | cons c after =>
      rcases h c rfl with rfl | rfl | rfl
      · rfl
      · rfl
      · rfl

theorem scanExponent_of_endsLiteral : scanExponent rest = .ok (none, rest) := by
  cases rest with
  | nil => rfl
  | cons c after =>
      rcases h c rfl with rfl | rfl | rfl
      · rfl
      · rfl
      · rfl

theorem isDigit_of_endsLiteral : ∀ c ∈ rest.head?, c.isDigit = false := by
  intro c hc
  rcases h c hc with rfl | rfl | rfl
  · rfl
  · rfl
  · rfl

theorem scanUnsigned_decimal (negative : Bool) (n : Nat) :
    scanUnsigned negative (Nat.toDigits 10 n ++ rest)
      = .ok (⟨negative, Nat.toDigits 10 n, none, none⟩, rest) := by
  have hdigits : ∀ c ∈ Nat.toDigits 10 n, c.isDigit = true := fun c hc =>
    Text.isDigit_of_mem_decimal hc
  have hlead : ¬ (1 < (Nat.toDigits 10 n).length ∧ (Nat.toDigits 10 n).head? = some '0') := by
    rintro ⟨hlength, hzero⟩
    by_cases hn : n = 0
    · subst hn
      exact absurd hlength (by decide)
    · exact Text.head?_decimal (Nat.pos_of_ne_zero hn) hzero
  have hnonempty : ¬ (Nat.toDigits 10 n).isEmpty = true := by
    simp
  unfold scanUnsigned
  rw [Text.takeWhile_run hdigits (isDigit_of_endsLiteral h),
    Text.dropWhile_run hdigits (isDigit_of_endsLiteral h)]
  dsimp only
  rw [if_neg hnonempty, if_neg hlead, scanFraction_of_endsLiteral h, ok_bind,
    scanExponent_of_endsLiteral h]
  rfl

theorem scanNumeral_intText (value : Int) :
    scanNumeral (Number.intText value ++ rest)
      = .ok (⟨value < 0, Nat.toDigits 10 value.natAbs, none, none⟩, rest) := by
  have hunsigned (negative : Bool) := scanUnsigned_decimal h negative value.natAbs
  unfold Number.intText
  by_cases hneg : value < 0
  · rw [if_pos hneg]
    simpa [hneg, scanNumeral] using hunsigned true
  · rw [if_neg hneg]
    unfold scanNumeral
    split
    · rename_i after heq
      obtain ⟨c, more, hdigits, hc⟩ := Text.exists_decimal_eq_cons value.natAbs
      rw [hdigits] at heq
      rw [(List.cons.inj heq).1] at hc
      cases hc
    · simpa [hneg] using hunsigned false

theorem scanNumber_intText {value : Int} (fits : -wordHalf ≤ value ∧ value < wordSize) :
    scanNumber (Number.intText value ++ rest)
      = (.scalar (.ofScalar (.number (.whole value fits))), rest) := by
  unfold scanNumber
  rw [scanNumeral_intText h]
  dsimp only
  rw [number?_decimal fits]

end

end Tablewright.Json
