/-
Octets read back as characters.

The octets of a character read back as that character, whatever was taken before
them: a character that had started cannot go on with them, because the first
octet of a character is never one that continues another, and is replaced.  So
octets of whole characters read back exactly, and no octet on its own is ever
worth more than one character.
-/
import Tablewright.Text.Utf8

namespace Tablewright.Utf8

/-! ### First octets and later octets -/

theorem start_one {n : Nat} (high : n < 0x80) : start n = .char (Char.ofNat n) :=
  if_pos high

theorem start_two {n : Nat} (low : 0x80 ≤ n) (high : n < 0x800) :
    start (0xC0 + n / 0x40) = .longer ⟨0, n / 0x40, 0x80, 0xBF⟩ := by
  have h1 : ¬ 0xC0 + n / 0x40 < 0x80 := by omega
  have h2 : ¬ 0xC0 + n / 0x40 < 0xC2 := by omega
  have h3 : 0xC0 + n / 0x40 < 0xE0 := by omega
  unfold start
  rw [if_neg h1, if_neg h2, if_pos h3, Nat.add_sub_cancel_left]

theorem start_three {n : Nat} (low : 0x800 ≤ n) (high : n < 0x10000) :
    start (0xE0 + n / 0x1000) = .longer ⟨1, n / 0x1000, if n / 0x1000 = 0 then 0xA0 else 0x80,
      if n / 0x1000 = 0xD then 0x9F else 0xBF⟩ := by
  have h1 : ¬ 0xE0 + n / 0x1000 < 0x80 := by omega
  have h2 : ¬ 0xE0 + n / 0x1000 < 0xC2 := by omega
  have h3 : ¬ 0xE0 + n / 0x1000 < 0xE0 := by omega
  have h4 : 0xE0 + n / 0x1000 < 0xF0 := by omega
  have hlow : 0xE0 + n / 0x1000 = 0xE0 ↔ n / 0x1000 = 0 := by omega
  have hhigh : 0xE0 + n / 0x1000 = 0xED ↔ n / 0x1000 = 0xD := by omega
  unfold start
  rw [if_neg h1, if_neg h2, if_neg h3, if_pos h4, Nat.add_sub_cancel_left]
  simp only [hlow, hhigh]

theorem start_four {n : Nat} (low : 0x10000 ≤ n) (high : n < 0x110000) :
    start (0xF0 + n / 0x40000) = .longer ⟨2, n / 0x40000, if n / 0x40000 = 0 then 0x90 else 0x80,
      if n / 0x40000 = 4 then 0x8F else 0xBF⟩ := by
  have h1 : ¬ 0xF0 + n / 0x40000 < 0x80 := by omega
  have h2 : ¬ 0xF0 + n / 0x40000 < 0xC2 := by omega
  have h3 : ¬ 0xF0 + n / 0x40000 < 0xE0 := by omega
  have h4 : ¬ 0xF0 + n / 0x40000 < 0xF0 := by omega
  have h5 : 0xF0 + n / 0x40000 < 0xF5 := by omega
  have hlow : 0xF0 + n / 0x40000 = 0xF0 ↔ n / 0x40000 = 0 := by omega
  have hhigh : 0xF0 + n / 0x40000 = 0xF4 ↔ n / 0x40000 = 4 := by omega
  unfold start
  rw [if_neg h1, if_neg h2, if_neg h3, if_neg h4, if_pos h5, Nat.add_sub_cancel_left]
  simp only [hlow, hhigh]

/-- A later octet of a character goes on with what has started, when it lies where it must. -/
theorem take_continuation {due value low high bits : Nat} (hlow : low ≤ 0x80 + bits % 0x40)
    (hhigh : 0x80 + bits % 0x40 ≤ high) :
    take (continuation bits) (some ⟨due, value, low, high⟩) = match due with
      | 0 => ([Char.ofNat (0x40 * value + bits % 0x40)], none)
      | due + 1 => ([], some ⟨due, 0x40 * value + bits % 0x40, 0x80, 0xBF⟩) := by
  have hbounds : (decide (low ≤ 0x80 + bits % 0x40) && decide (0x80 + bits % 0x40 ≤ high)) = true := by
    simp [hlow, hhigh]
  unfold take Started.next? continuation
  dsimp only
  rw [if_pos hbounds, Nat.add_sub_cancel_left]
  cases due <;> rfl

/-- An octet that lies elsewhere gives up what has started. -/
theorem take_of_lt_or_lt {due value low high o : Nat} (ho : o < low ∨ high < o) :
    take o (some ⟨due, value, low, high⟩) = takeStart [replacement] o := by
  have hbounds : ¬ (decide (low ≤ o) && decide (o ≤ high)) = true := by
    simp only [Bool.and_eq_true, decide_eq_true_eq]
    omega
  unfold take Started.next?
  dsimp only
  rw [if_neg hbounds]

/-! ### Whole characters -/

/-- What stands for a character that has started and cannot go on. -/
def pending : Option Started → List Char
  | none => []
  | some _ => [replacement]

/-- A character that has started goes on with none but the octets that continue characters. -/
def Continues (s : Option Started) : Prop :=
  ∀ due value low high : Nat, s = some ⟨due, value, low, high⟩ → 0x80 ≤ low ∧ high ≤ 0xBF

@[simp] theorem continues_none : Continues none := by
  intro due value low high h
  cases h

@[simp] theorem decodeFrom_nil (s : Option Started) : decodeFrom s [] = pending s := by
  cases s <;> rfl

theorem decodeFrom_cons (s : Option Started) (o : Octet) (rest : List Octet) :
    decodeFrom s (o :: rest) = (take o s).1 ++ decodeFrom (take o s).2 rest := by
  cases s <;> rfl

/-- An octet that continues nothing starts afresh, behind the mark for what had started. -/
theorem take_eq_takeStart {s : Option Started} (h : Continues s) {o : Nat}
    (ho : o < 0x80 ∨ 0xBF < o) : take o s = takeStart (pending s) o := by
  cases s with
  | none => rfl
  | some started =>
      obtain ⟨due, value, low, high⟩ := started
      obtain ⟨hlow, hhigh⟩ := h due value low high rfl
      refine take_of_lt_or_lt ?_
      omega

/-- The code points are those below the surrogates and those above them. -/
theorem toNat_bounds (c : Char) : c.toNat < 0xD800 ∨ 0xDFFF < c.toNat ∧ c.toNat < 0x110000 :=
  c.valid

theorem encodeChar_ne_nil (c : Char) : encodeChar c ≠ [] := by
  unfold encodeChar
  dsimp only
  repeat' split
  all_goals simp

/-- The octets of a character are below 256, and one below 128 is the number of the character. -/
theorem octet_of_mem_encodeChar {c : Char} {o : Nat} (h : o ∈ encodeChar c) :
    o < 256 ∧ (o < 0x80 → o = c.toNat) := by
  have hc := toNat_bounds c
  unfold encodeChar continuation at h
  dsimp only at h
  split at h
  · simp only [List.mem_singleton] at h
    omega
  split at h
  · simp only [List.mem_cons, List.not_mem_nil, or_false] at h
    omega
  split at h
  · simp only [List.mem_cons, List.not_mem_nil, or_false] at h
    omega
  · simp only [List.mem_cons, List.not_mem_nil, or_false] at h
    omega

/-- Every octet of a character is one. -/
theorem encodeChar_lt (c : Char) (o : Nat) (h : o ∈ encodeChar c) : o < 256 :=
  (octet_of_mem_encodeChar h).1

theorem encode_lt (cs : List Char) : ∀ o ∈ encode cs, o < 256 := by
  intro o ho
  obtain ⟨c, -, hc⟩ := List.mem_flatMap.mp ho
  exact encodeChar_lt c o hc

/-- An octet below 128 is of the character it is the number of. -/
theorem eq_of_mem_encodeChar {c d : Char} (hd : d.toNat < 0x80) (h : d.toNat ∈ encodeChar c) :
    c = d :=
  Char.toNat_inj.mp ((octet_of_mem_encodeChar h).2 hd).symm

theorem decodeFrom_encodeChar {s : Option Started} (h : Continues s) (c : Char)
    (rest : List Octet) :
    decodeFrom s (encodeChar c ++ rest) = pending s ++ c :: decodeFrom none rest := by
  have hc := toNat_bounds c
  have hofNat : Char.ofNat c.toNat = c := Char.ofNat_toNat c
  unfold encodeChar
  by_cases h1 : c.toNat < 0x80
  · simp only [h1, if_true, List.cons_append, List.nil_append]
    rw [decodeFrom_cons, take_eq_takeStart h (Or.inl h1), takeStart, start_one h1, hofNat]
    simp
  · have h80 : 0x80 ≤ c.toNat := Nat.le_of_not_lt h1
    by_cases h2 : c.toNat < 0x800
    · have htwo : 0x40 * (c.toNat / 0x40) + c.toNat % 0x40 = c.toNat := Nat.div_add_mod _ _
      simp only [h1, h2, if_true, if_false, List.cons_append, List.nil_append]
      rw [decodeFrom_cons, take_eq_takeStart h (by omega), takeStart, start_two h80 h2,
        decodeFrom_cons, take_continuation (by omega) (by omega)]
      dsimp only
      rw [htwo, hofNat]
      rfl
    · have h800 : 0x800 ≤ c.toNat := Nat.le_of_not_lt h2
      by_cases h3 : c.toNat < 0x10000
      · have hthree : 0x40 * (0x40 * (c.toNat / 0x1000) + c.toNat / 0x40 % 0x40) + c.toNat % 0x40
            = c.toNat := by omega
        simp only [h1, h2, h3, if_true, if_false, List.cons_append, List.nil_append]
        rw [decodeFrom_cons, take_eq_takeStart h (by omega), takeStart, start_three h800 h3,
          decodeFrom_cons, take_continuation (by split <;> omega) (by split <;> omega),
          decodeFrom_cons, take_continuation (by omega) (by omega)]
        dsimp only
        rw [hthree, hofNat]
        rfl
      · have h10000 : 0x10000 ≤ c.toNat := Nat.le_of_not_lt h3
        have hfour : 0x40 * (0x40 * (0x40 * (c.toNat / 0x40000) + c.toNat / 0x1000 % 0x40)
            + c.toNat / 0x40 % 0x40) + c.toNat % 0x40 = c.toNat := by omega
        simp only [h1, h2, h3, if_false, List.cons_append, List.nil_append]
        rw [decodeFrom_cons, take_eq_takeStart h (by omega), takeStart,
          start_four h10000 (by omega), decodeFrom_cons,
          take_continuation (by split <;> omega) (by split <;> omega), decodeFrom_cons,
          take_continuation (by omega) (by omega), decodeFrom_cons,
          take_continuation (by omega) (by omega)]
        dsimp only
        rw [hfour, hofNat]
        rfl

/-- **The octets of characters read back as those characters.** -/
theorem decode_encode (cs : List Char) : decode (encode cs) = cs := by
  unfold decode encode
  induction cs with
  | nil => rfl
  | cons c rest ih =>
      rw [List.flatMap_cons, decodeFrom_encodeChar continues_none, ih]
      rfl

/-! ### Octets on their own -/

theorem continues_of_start {o : Octet} {s : Started} (h : start o = .longer s) :
    Continues (some s) := by
  unfold start at h
  intro due value low high hs
  cases hs
  split at h
  · cases h
  split at h
  · cases h
  split at h
  · cases h
    simp
  split at h
  · cases h
    constructor <;> split <;> simp
  split at h
  · cases h
    constructor <;> split <;> simp
  · cases h

theorem takeStart_spec (before : List Char) (o : Octet) :
    (takeStart before o).1.length + (pending (takeStart before o).2).length = before.length + 1 ∧
      Continues (takeStart before o).2 := by
  unfold takeStart
  cases hstart : start o with
  | char c => simp [pending]
  | longer s => exact ⟨rfl, continues_of_start hstart⟩
  | fault => simp [pending]

/-- An octet is worth one character at most, the mark for what had started apart. -/
theorem take_spec {s : Option Started} (h : Continues s) (o : Octet) :
    (take o s).1.length + (pending (take o s).2).length ≤ (pending s).length + 1 ∧
      Continues (take o s).2 := by
  cases s with
  | none =>
      obtain ⟨hlength, hcontinues⟩ := takeStart_spec [] o
      exact ⟨Nat.le_of_eq hlength, hcontinues⟩
  | some started =>
      unfold take
      dsimp only
      split
      · simp [pending]
      · rename_i next hnext
        unfold Started.next? at hnext
        split at hnext
        · dsimp only at hnext
          split at hnext
          · cases hnext
          · cases hnext
            refine ⟨by simp [pending], ?_⟩
            intro due value low high hs
            cases hs
            simp
        · cases hnext
      · obtain ⟨hlength, hcontinues⟩ := takeStart_spec [replacement] o
        exact ⟨Nat.le_of_eq hlength, hcontinues⟩

end Tablewright.Utf8
