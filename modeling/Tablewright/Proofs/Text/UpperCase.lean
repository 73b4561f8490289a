/-
Upper case keeps to letters.

Every character before `A` is its own upper case, and the upper case of any other
character lies at `A` or behind it.  So upper case neither makes nor takes away a
sign: blanks, quotes, semicolons and parentheses stand where they stood, and so do
brackets.

Folding takes the upper case back only as far as ASCII reaches.  A text is the same
name as its upper case exactly when each of its characters is in ASCII or is its own
upper case; no character that becomes several is either.
-/
import Tablewright.Blueprint
import Tablewright.Proofs.Entries
import Tablewright.Text.UpperCase

namespace Tablewright.Text

/-- The code point of a character at `A` or behind it. -/
def PastSigns (code : Nat) : Prop :=
  0x41 ≤ code ∧ (code < 0xD800 ∨ 0xE000 ≤ code ∧ code < 0x110000)

instance (code : Nat) : Decidable (PastSigns code) :=
  inferInstanceAs (Decidable (_ ∧ _))

theorem PastSigns.toNat_ofNat {code : Nat} (h : PastSigns code) :
    (Char.ofNat code).toNat = code := by
  have hvalid : code.isValidChar := by
    unfold PastSigns at h
    unfold Nat.isValidChar
    omega
  rw [Char.ofNat, dif_pos hvalid]
  rfl

/-! ### What the tables hold -/

/-- A table has this code point among the upper cases. -/
def Made (code : Nat) : Prop :=
  (∃ entry ∈ caseExpansions, code ∈ entry.2) ∨
    ∃ run ∈ caseRuns, run.target ≤ code ∧ code ≤ run.target + (run.last - run.first)

instance (code : Nat) : Decidable (Made code) :=
  inferInstanceAs (Decidable (_ ∨ _))

/-- Where both ends of a run are, all of it is. -/
theorem Made.pastSigns {code : Nat} (h : Made code) : PastSigns code := by
  rcases h with ⟨entry, hentry, hcode⟩ | ⟨run, hrun, hfirst, hlast⟩
  · have hall : ∀ entry ∈ caseExpansions, ∀ upper ∈ entry.2, PastSigns upper := by decide
    exact hall entry hentry code hcode
  · have hends : ∀ run ∈ caseRuns, 0x41 ≤ run.target ∧
        (run.target + (run.last - run.first) < 0xD800 ∨
          0xE000 ≤ run.target ∧ run.target + (run.last - run.first) < 0x110000) := by
      decide +kernel
    have hrun := hends run hrun
    unfold PastSigns
    omega

/-- The upper case of a character beyond ASCII is the character or from a table. -/
theorem made_of_mem {c d : Char} (hd : d ∈ upperBeyondAscii c) : d = c ∨ Made d.toNat := by
  have htable : ∀ {code : Nat}, Made code → d = Char.ofNat code → Made d.toNat := by
    rintro code hmade rfl
    rw [hmade.pastSigns.toNat_ofNat]
    exact hmade
  unfold upperBeyondAscii at hd
  split at hd
  · rename_i codes hcodes
    obtain ⟨code, hcode, hd⟩ := List.mem_map.mp hd
    exact Or.inr (htable (Or.inl ⟨_, mem_of_lookup hcodes, hcode⟩) hd.symm)
  · split at hd
    · rename_i code hcode
      obtain ⟨run, hrun, hupper⟩ := List.exists_of_findSome?_eq_some hcode
      have hrange : run.target ≤ code ∧ code ≤ run.target + (run.last - run.first) := by
        obtain ⟨hin, hupper⟩ := Option.ite_none_right_eq_some.mp hupper
        simp only [Bool.and_eq_true, decide_eq_true_eq] at hin
        have hcode := Option.some.inj hupper
        omega
      exact Or.inr (htable (Or.inr ⟨run, hrun, hrange⟩) (List.mem_singleton.mp hd))
    · exact Or.inl (List.mem_singleton.mp hd)

/-! ### Signs -/

/-- **A character before `A` is its own upper case.** -/
theorem upperChar_of_lt {c : Char} (h : c.toNat < 0x41) : upperChar c = [c] := by
  have hascii : ∀ code < 0x41, (Char.ofNat code).toUpper = Char.ofNat code := by decide
  have hc := hascii c.toNat h
  rw [Char.ofNat_toNat] at hc
  rw [upperChar, if_pos (by omega), hc]

/-- **The upper case of any other character lies at `A` or behind it.** -/
theorem le_toNat_of_mem_upperChar {c d : Char} (h : 0x41 ≤ c.toNat) (hd : d ∈ upperChar c) :
    0x41 ≤ d.toNat := by
  unfold upperChar at hd
  split at hd
  · rename_i hc
    have hascii : ∀ code < 0x80, 0x41 ≤ code → 0x41 ≤ (Char.ofNat code).toUpper.toNat := by decide
    have hupper := hascii c.toNat hc h
    rw [Char.ofNat_toNat] at hupper
    rw [List.mem_singleton.mp hd]
    exact hupper
  · rcases made_of_mem hd with rfl | hmade
    · exact h
    · exact hmade.pastSigns.1

/-- **No other character becomes a bracket.** -/
theorem eq_bracket_of_mem_upperChar {c : Char} (h : ']' ∈ upperChar c) : c = ']' := by
  unfold upperChar at h
  split at h
  · rename_i hc
    have hascii : ∀ code < 0x80, ']' = (Char.ofNat code).toUpper → Char.ofNat code = ']' := by
      decide
    have hupper := hascii c.toNat hc
    rw [Char.ofNat_toNat] at hupper
    exact hupper (List.mem_singleton.mp h)
  · rcases made_of_mem h with hc | hmade
    · exact hc.symm
    · exact absurd hmade (by decide +kernel)

/-! ### Folding -/

section Folding

variable {α β : Type} {f : α → List β}

/-- Where no element becomes nothing, a text does not get shorter. -/
theorem length_le_length_flatMap (h : ∀ a, f a ≠ []) (l : List α) :
    l.length ≤ (l.flatMap f).length := by
  induction l with
  | nil => exact Nat.le_refl 0
  | cons a rest ih =>
      have hfirst := List.length_pos_iff.mpr (h a)
      rw [List.flatMap_cons, List.length_append, List.length_cons]
      omega

/-- Where no element becomes nothing, a text becomes what it becomes one by one only if none becomes
several. -/
theorem flatMap_eq_map_iff {g : α → β} (h : ∀ a, f a ≠ []) {l : List α} :
    l.flatMap f = l.map g ↔ ∀ a ∈ l, f a = [g a] := by
  constructor
  · intro heq
    induction l with
    | nil => exact List.forall_mem_nil _
    | cons a rest ih =>
        rw [List.flatMap_cons, List.map_cons] at heq
        obtain ⟨b, others, hfirst⟩ := List.exists_cons_of_ne_nil (h a)
        rw [hfirst, List.cons_append] at heq
        obtain ⟨hb, hrest⟩ := List.cons.inj heq
        have hothers : others = [] := by
          have hlength := congrArg List.length hrest
          have hlonger := length_le_length_flatMap h rest
          rw [List.length_append, List.length_map] at hlength
          exact List.length_eq_zero_iff.mp (by omega)
        rw [hothers, List.nil_append] at hrest
        rw [List.forall_mem_cons, hfirst, hb, hothers]
        exact ⟨rfl, ih hrest⟩
  · intro hall
    induction l with
    | nil => rfl
    | cons a rest ih =>
        obtain ⟨hfirst, hrest⟩ := List.forall_mem_cons.mp hall
        rw [List.flatMap_cons, hfirst, ih hrest]
        rfl

end Folding

theorem upperChar_ne_nil (c : Char) : upperChar c ≠ [] := by
  have hexpansions : ∀ entry ∈ caseExpansions, entry.2 ≠ [] := by decide
  unfold upperChar upperBeyondAscii
  split
  · exact List.cons_ne_nil _ _
  · split
    · rename_i codes hcodes
      exact mt List.map_eq_nil_iff.mp (hexpansions _ (mem_of_lookup hcodes))
    · split
      · exact List.cons_ne_nil _ _
      · exact List.cons_ne_nil _ _

/-- The folding of ASCII leaves what is beyond as it is. -/
theorem toLower_of_not_lt {c : Char} (h : ¬ c.toNat < 0x80) : c.toLower = c := by
  have hcapital : ¬ (c.val ≥ 'A'.val ∧ c.val ≤ 'Z'.val) := by
    rintro ⟨-, hlast⟩
    have hbound : c.toNat ≤ 0x5A := hlast
    omega
  exact dif_neg hcapital

/-- Folding takes the upper case of a character back where the character is in ASCII, or had no
other upper case. -/
theorem map_toLower_upperChar_iff {c : Char} :
    (upperChar c).map Char.toLower = [c.toLower] ↔ c.toNat < 0x80 ∨ upperChar c = [c] := by
  by_cases hc : c.toNat < 0x80
  · have hascii : ∀ code < 0x80,
        (Char.ofNat code).toUpper.toLower = (Char.ofNat code).toLower := by decide
    have hfold := hascii c.toNat hc
    rw [Char.ofNat_toNat] at hfold
    simp [upperChar, hc, hfold]
  · have hfold := toLower_of_not_lt hc
    rw [hfold, or_iff_right hc]
    constructor
    · intro h
      obtain ⟨d, hd, hlower⟩ := List.map_eq_singleton_iff.mp h
      by_cases hascii : d.toNat < 0x80
      · have hsmall : ∀ code < 0x80, (Char.ofNat code).toLower.toNat < 0x80 := by decide
        have hfolded := hsmall d.toNat hascii
        rw [Char.ofNat_toNat, hlower] at hfolded
        exact absurd hfolded hc
      · rw [hd, ← hlower, toLower_of_not_lt hascii]
    · intro h
      rw [h, List.map_singleton, hfold]

/-- Whether the upper case of a text is the same name. -/
def KeepsName (s : String) : Prop :=
  ∀ c ∈ s.toList, c.toNat < 0x80 ∨ upperChar c = [c]

/-- **The upper case of a text is the same name only where each character folds back.** -/
theorem sameName_upper_iff (s : String) : sameName (upper s) s = true ↔ KeepsName s := by
  have hnonempty : ∀ c, (upperChar c).map Char.toLower ≠ [] :=
    fun c => mt List.map_eq_nil_iff.mp (upperChar_ne_nil c)
  unfold sameName upper KeepsName
  rw [beq_iff_eq, String.toList_ofList, List.map_flatMap, flatMap_eq_map_iff hnonempty]
  exact forall₂_congr fun c _ => map_toLower_upperChar_iff

theorem keepsName_of_ascii {s : String} (h : s.toList.all (·.toNat < 0x80) = true) :
    KeepsName s :=
  fun c hc => Or.inl (by simpa using List.all_eq_true.mp h c hc)

theorem keepsName_append {s t : String} : KeepsName (s ++ t) ↔ KeepsName s ∧ KeepsName t := by
  unfold KeepsName
  rw [String.toList_append, List.forall_mem_append]

theorem upper_append (s t : String) : upper (s ++ t) = upper s ++ upper t := by
  unfold upper
  rw [String.toList_append, List.flatMap_append, String.ofList_append]

end Tablewright.Text
