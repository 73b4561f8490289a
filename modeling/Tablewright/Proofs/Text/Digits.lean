/-
Runs, and numbers in decimal.

A reader cuts a text where the first character stands that does not go on with the
run it is in, and a list of words where the first such word stands.  The digits of
a number are such a run, and read back as the number.
-/
import Mathlib.Algebra.Group.Nat.Defs
import Tablewright.Text.Digits

namespace Tablewright.Text

section Runs

variable {α : Type} {p : α → Bool} {run rest : List α}

/-- A run ends where it was written to end. -/
theorem takeWhile_run (hrun : ∀ c ∈ run, p c = true)
    (hrest : ∀ c ∈ rest.head?, p c = false) : (run ++ rest).takeWhile p = run := by
  rw [List.takeWhile_append_of_pos hrun]
  cases rest with
  | nil => simp
  | cons c after => simp [List.takeWhile_cons_of_neg, hrest c rfl]

theorem dropWhile_run (hrun : ∀ c ∈ run, p c = true)
    (hrest : ∀ c ∈ rest.head?, p c = false) : (run ++ rest).dropWhile p = rest := by
  rw [List.dropWhile_append_of_pos hrun]
  cases rest with
  | nil => rfl
  | cons c after => simp [List.dropWhile_cons_of_neg, hrest c rfl]

theorem takeWhile_all (hrun : ∀ c ∈ run, p c = true) : run.takeWhile p = run := by
  have hcut : (run ++ []).takeWhile p = run := takeWhile_run hrun (by simp)
  rwa [List.append_nil] at hcut

theorem dropWhile_all (hrun : ∀ c ∈ run, p c = true) : run.dropWhile p = [] := by
  have hcut : (run ++ []).dropWhile p = [] := dropWhile_run hrun (by simp)
  rwa [List.append_nil] at hcut

theorem dropWhile_none (h : ∀ c ∈ rest, p c = false) : rest.dropWhile p = rest := by
  have hcut : ([] ++ rest).dropWhile p = rest := dropWhile_run (by simp) fun c hc =>
    h c (List.mem_of_mem_head? hc)
  rwa [List.nil_append] at hcut

end Runs

/-! ### Digits of any base -/

theorem naturalFrom?_append (base start : Nat) (front back : List Char) :
    naturalFrom? base start (front ++ back)
      = (naturalFrom? base start front).bind fun n => naturalFrom? base n back := by
  induction front generalizing start with
  | nil => rfl
  | cons c rest ih =>
      rw [List.cons_append, naturalFrom?, naturalFrom?]
      cases hexValue? c with
      | none => rfl
      | some value =>
          by_cases hvalue : value < base
          · simp [hvalue, ih]
          · simp [hvalue]

theorem hexValue?_digitChar {n : Nat} (h : n < 16) : hexValue? (Nat.digitChar n) = some n := by
  have hall : ∀ k : Fin 16, hexValue? (Nat.digitChar k) = some k.val := by decide
  exact hall ⟨n, h⟩

theorem naturalFrom?_digitChar {base n : Nat} (hbase : base ≤ 16) (h : n < base) (start : Nat) :
    naturalFrom? base start [Nat.digitChar n] = some (base * start + n) := by
  simp [naturalFrom?, hexValue?_digitChar (Nat.lt_of_lt_of_le h hbase), h]

/-- **The digits of a number read back as that number.** -/
theorem natural?_toDigits {base : Nat} (hone : 1 < base) (hbase : base ≤ 16) (n : Nat) :
    natural? base (Nat.toDigits base n) = some n := by
  have hread : naturalFrom? base 0 (Nat.toDigits base n) = some n := by
    -- the last digit comes off, so the induction is on the number
    induction n using Nat.strongRecOn with
    | ind n ih =>
        rcases Nat.lt_or_ge n base with hsmall | hlarge
        · rw [Nat.toDigits_of_lt_base hsmall, naturalFrom?_digitChar hbase hsmall]
          simp
        · rw [Nat.toDigits_of_base_le hone hlarge, naturalFrom?_append,
            ih (n / base) (Nat.div_lt_self (by omega) hone), Option.bind_some,
            naturalFrom?_digitChar hbase (Nat.mod_lt n (by omega)), Nat.div_add_mod]
  have hne : (Nat.toDigits base n).isEmpty = false := by
    simp
  unfold natural?
  rw [hne]
  exact hread

/-- What is a number is made of digits. -/
theorem digit_of_naturalFrom? {base start n : Nat} {cs : List Char}
    (h : naturalFrom? base start cs = some n) :
    ∀ c ∈ cs, ∃ value, hexValue? c = some value ∧ value < base := by
  induction cs generalizing start with
  | nil => exact List.forall_mem_nil _
  | cons c rest ih =>
      obtain ⟨value, hvalue, h⟩ := Option.bind_eq_some_iff.mp h
      obtain ⟨hlt, hrest⟩ := Option.ite_none_right_eq_some.mp h
      exact List.forall_mem_cons.mpr ⟨⟨value, hvalue, hlt⟩, ih hrest⟩

theorem naturalFrom?_lt {base start n : Nat} {cs : List Char}
    (h : naturalFrom? base start cs = some n) : n < base ^ cs.length * (start + 1) := by
  induction cs generalizing start with
  | nil =>
      rw [← Option.some.inj h]
      simp
  | cons c rest ih =>
      obtain ⟨value, -, h⟩ := Option.bind_eq_some_iff.mp h
      obtain ⟨hvalue, hrest⟩ := Option.ite_none_right_eq_some.mp h
      calc n < base ^ rest.length * (base * start + value + 1) := ih hrest
        _ ≤ base ^ rest.length * (base * (start + 1)) :=
          Nat.mul_le_mul_left _ (by rw [Nat.mul_succ]; omega)
        _ = base ^ (c :: rest).length * (start + 1) := by
          rw [List.length_cons, Nat.pow_succ, Nat.mul_assoc]

/-- A number is bounded by how many digits it has. -/
theorem natural?_lt {base n : Nat} {cs : List Char} (h : natural? base cs = some n) :
    n < base ^ cs.length := by
  have hlt := naturalFrom?_lt (Option.ite_none_left_eq_some.mp h).2
  rwa [Nat.zero_add, Nat.mul_one] at hlt

/-! ### Decimal digits -/

theorem isDigit_of_mem_decimal {n : Nat} {c : Char} (h : c ∈ Nat.toDigits 10 n) :
    c.isDigit = true :=
  Nat.isDigit_of_mem_toDigits (by decide) (by decide) h

theorem exists_decimal_eq_cons (n : Nat) :
    ∃ c more, Nat.toDigits 10 n = c :: more ∧ c.isDigit = true := by
  cases hdigits : Nat.toDigits 10 n with
  | nil => exact absurd hdigits Nat.toDigits_ne_nil
  | cons c more =>
      have hmem : c ∈ Nat.toDigits 10 n := by
        simp [hdigits]
      exact ⟨c, more, rfl, isDigit_of_mem_decimal hmem⟩

theorem ne_of_isDigit {c d : Char} (hc : c.isDigit = true) (hd : d.isDigit = false) : c ≠ d := by
  rintro rfl
  rw [hc] at hd
  cases hd

/-- The value of a decimal digit is below ten. -/
theorem digitValue_lt {c : Char} (h : c.isDigit = true) : digitValue c < 10 := by
  simp only [Char.isDigit, Bool.and_eq_true, decide_eq_true_eq, ge_iff_le,
    UInt32.le_iff_toNat_le] at h
  have hhigh : c.toNat ≤ 57 := h.2
  have hzero : '0'.toNat = 48 := rfl
  unfold digitValue
  omega

theorem hexValue?_of_isDigit {c : Char} (h : c.isDigit = true) :
    hexValue? c = some (digitValue c) :=
  if_pos h

theorem naturalFrom?_of_isDigit {cs : List Char} (h : ∀ c ∈ cs, c.isDigit = true) (start : Nat) :
    naturalFrom? 10 start cs = some (Nat.ofDigitChars 10 cs start) := by
  induction cs generalizing start with
  | nil => rfl
  | cons c rest ih =>
      rw [List.forall_mem_cons] at h
      have hlt := digitValue_lt h.1
      simp only [naturalFrom?, hexValue?_of_isDigit h.1, Option.bind_eq_bind, Option.bind_some,
        hlt, if_true, ih h.2]
      rfl

/-- Only decimal digits have a value below ten. -/
theorem isDigit_of_hexValue? {c : Char} {value : Nat} (h : hexValue? c = some value)
    (hvalue : value < 10) : c.isDigit = true := by
  unfold hexValue? at h
  split at h
  · assumption
  split at h
  · have hletter := Option.some.inj h
    omega
  split at h
  · have hletter := Option.some.inj h
    omega
  · cases h

/-- **A text is a number in decimal where it is made of digits, and is the number they denote.** -/
theorem natural?_eq_some_iff {digits : List Char} {n : Nat} :
    natural? 10 digits = some n ↔ digits ≠ [] ∧ (∀ c ∈ digits, c.isDigit = true) ∧
      Nat.ofDigitChars 10 digits 0 = n := by
  have hread (hall : ∀ c ∈ digits, c.isDigit = true) :
      naturalFrom? 10 0 digits = some n ↔ Nat.ofDigitChars 10 digits 0 = n := by
    rw [naturalFrom?_of_isDigit hall, Option.some.injEq]
  unfold natural?
  rw [Option.ite_none_left_eq_some, List.isEmpty_iff]
  refine and_congr_right fun _ => ⟨fun h => ?_, fun h => (hread h.1).mpr h.2⟩
  have hall : ∀ c ∈ digits, c.isDigit = true := by
    intro c hc
    obtain ⟨value, hvalue, hlt⟩ := digit_of_naturalFrom? h c hc
    exact isDigit_of_hexValue? hvalue hlt
  exact ⟨hall, (hread hall).mp h⟩

/-- **A number in decimal reads back as that number.** -/
theorem natural?_decimal (n : Nat) : natural? 10 (Nat.toDigits 10 n) = some n :=
  natural?_toDigits (by decide) (by decide) n

/-- Only the number zero starts with a zero. -/
theorem head?_decimal {n : Nat} (h : 0 < n) : (Nat.toDigits 10 n).head? ≠ some '0' := by
  induction n using Nat.strongRecOn with
  | ind n ih =>
      by_cases hn : n < 10
      · have hdigit : ∀ k : Fin 10, 0 < k.val → Nat.digitChar k ≠ '0' := by decide
        rw [Nat.toDigits_of_lt_base hn]
        simpa using hdigit ⟨n, hn⟩ h
      · have hfirst := ih (n / 10) (by omega) (by omega)
        rw [Nat.toDigits_of_base_le (by decide) (by omega)]
        cases hdigits : Nat.toDigits 10 (n / 10) with
        | nil => exact absurd hdigits Nat.toDigits_ne_nil
        | cons c rest =>
            rw [hdigits] at hfirst
            exact hfirst

end Tablewright.Text
