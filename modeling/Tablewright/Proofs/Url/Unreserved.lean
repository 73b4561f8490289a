/-
Texts in which everything is escaped that may be.

Letters, digits and four signs are never separators.  A text that has nothing else
but escapes says octet by octet what it stands for, so it decodes to just the text
it was written of, whoever wrote it and in which case its digits are.  No part of a
connect string ends in it, and the path keeps it as it is, since an escape never
stands for a dot.
-/
import Tablewright.Proofs.Url

namespace Tablewright.Url

open Text (hexValue?)

/-- A character that is never escaped. -/
def isUnreserved (c : Char) : Bool :=
  c.isAlphanum || c = '-' || c = '.' || c = '_' || c = '~'

/-- The text writes these octets: an octet of an unreserved character as this character, and every
other one as an escape. -/
inductive Escapes : List Nat → List Char → Prop
  | nil : Escapes [] []
  | char {os : List Nat} {cs : List Char} (c : Char) (h : isUnreserved c = true)
      (hrest : Escapes os cs) : Escapes (c.toNat :: os) (c :: cs)
  | escape {os : List Nat} {cs : List Char} {o : Nat} {a b : Char}
      (h : ∀ c, isUnreserved c = true → c.toNat ≠ o) (hhigh : hexValue? a = some (o / 16))
      (hlow : hexValue? b = some (o % 16)) (hrest : Escapes os cs) :
      Escapes (o :: os) ('%' :: a :: b :: cs)

theorem lt_of_isUnreserved {c : Char} (h : isUnreserved c = true) : c.toNat < 128 := by
  simp only [isUnreserved, Bool.or_eq_true, decide_eq_true_eq] at h
  rcases h with (((halnum | rfl) | rfl) | rfl) | rfl
  · exact lt_of_isAlphanum halnum
  · decide
  · decide
  · decide
  · decide

/-- What holds of the unreserved characters, one by one, holds of all of them. -/
theorem forall_unreserved {p : Char → Prop}
    (h : ∀ n : Fin 128, isUnreserved (Char.ofNat n) = true → p (Char.ofNat n)) (c : Char)
    (hc : isUnreserved c = true) : p c :=
  forall_ascii (p := fun c => isUnreserved c = true → p c) h c (lt_of_isUnreserved hc) hc

theorem ne_percent_of_isUnreserved {c : Char} (h : isUnreserved c = true) : c ≠ '%' := by
  rintro rfl
  cases h

/-! ### Texts that are written so -/

/-- The text that writes some octets, with the capitals among the digits. -/
def percentEncoded (os : List Nat) : List Char :=
  os.flatMap fun o => if isUnreserved (Char.ofNat o) then [Char.ofNat o] else escaped o

/-- Every text can be written so. -/
theorem escapes_percentEncoded {os : List Nat} (h : ∀ o ∈ os, o < 256) :
    Escapes os (percentEncoded os) := by
  induction os with
  | nil => exact .nil
  | cons o rest ih =>
      obtain ⟨ho, hrest⟩ := List.forall_mem_cons.mp h
      have hcode : (Char.ofNat o).toNat = o := by
        have hvalid : o.isValidChar := by
          unfold Nat.isValidChar
          omega
        rw [Char.ofNat, dif_pos hvalid]
        rfl
      rw [percentEncoded, List.flatMap_cons]
      split
      · rename_i hunreserved
        have hchar := Escapes.char (Char.ofNat o) hunreserved (ih hrest)
        rwa [hcode] at hchar
      · rename_i hreserved
        refine .escape ?_ (escaped_digits (by omega)) (escaped_digits (by omega)) (ih hrest)
        rintro c hc rfl
        rw [Char.ofNat_toNat] at hreserved
        exact hreserved hc

namespace Escapes

variable {os : List Nat} {cs : List Char}

/-- A text of unreserved characters writes its own octets. -/
theorem of_unreserved (h : ∀ c ∈ cs, isUnreserved c = true) : Escapes (Utf8.encode cs) cs := by
  induction cs with
  | nil => exact .nil
  | cons c rest ih =>
      obtain ⟨hc, hrest⟩ := List.forall_mem_cons.mp h
      have hself : Utf8.encodeChar c = [c.toNat] := if_pos (lt_of_isUnreserved hc)
      rw [Utf8.encode, List.flatMap_cons, hself]
      exact .char c hc (ih hrest)

/-- **A text has the octets that it writes.** -/
theorem octets_eq (h : Escapes os cs) : octets cs = os := by
  induction h with
  | nil => rfl
  | char c hc _ ih =>
      have hself : Utf8.encodeChar c = [c.toNat] := if_pos (lt_of_isUnreserved hc)
      rw [octets_cons fun hpercent => absurd hpercent (ne_percent_of_isUnreserved hc), hself, ih]
      rfl
  | @escape _ _ o _ _ _ hhigh hlow _ ih =>
      rw [octets_escape hhigh hlow, ih, Nat.div_add_mod o 16]

theorem decode_eq {text : List Char} (h : Escapes (Utf8.encode text) cs) : decode cs = text := by
  rw [decode, h.octets_eq, Utf8.decode_encode]

/-- No character of it would be escaped in a user name, in a password or in a path. -/
theorem plain (h : Escapes os cs) : ∀ c ∈ cs, escapedInUser c = false := by
  induction h with
  | nil => exact List.forall_mem_nil _
  | char c hc _ ih =>
      have hself : escapedInUser c = false :=
        forall_unreserved (p := fun c => escapedInUser c = false) (by decide) c hc
      exact List.forall_mem_cons.mpr ⟨hself, ih⟩
  | escape _ hhigh hlow _ ih =>
      have hdigit := keepsEscapes_escapedInUser.digit
      refine List.forall_mem_cons.mpr ⟨keepsEscapes_escapedInUser.percent, ?_⟩
      refine List.forall_mem_cons.mpr ⟨hdigit _ (by simp [hhigh]), ?_⟩
      exact List.forall_mem_cons.mpr ⟨hdigit _ (by simp [hlow]), ih⟩

/-- None of its escapes stands for a dot, which is not escaped. -/
theorem plainDots_eq (h : Escapes os cs) : plainDots cs = cs := by
  induction h with
  | nil => rfl
  | char c hc _ ih =>
      rw [plainDots_cons fun hpercent => absurd hpercent (ne_percent_of_isUnreserved hc), ih]
  | escape ho hhigh hlow _ ih =>
      have hdot := (ho '.' (by decide)).symm
      rw [plainDots_escape hhigh hlow hdot, ih]

/-- **The path keeps a text that is written so**, unless it is one dot or two. -/
theorem segmentOf_eq {text : List Char} (h : Escapes (Utf8.encode text) cs) (hone : text ≠ ['.'])
    (htwo : text ≠ ['.', '.']) : segmentOf cs = cs := by
  have hplain : ∀ c ∈ cs, escapedInPath c = false := fun c hc => escapedInPath_of_user (h.plain c hc)
  have hkept : cs.filter isKept = cs :=
    List.filter_eq_self.mpr fun c hc => isKept_of_plain c (hplain c hc)
  have hdots : ¬ IsDots cs := by
    unfold IsDots
    rw [h.plainDots_eq]
    rintro (rfl | rfl)
    · exact hone h.decode_eq.symm
    · exact htwo h.decode_eq.symm
  unfold segmentOf
  dsimp only
  rw [hkept, encode_of_plain hplain, if_neg hdots]

end Escapes

end Tablewright.Url
