/-
Quoted texts read back.

Every character is written as one piece: itself, the letter of an escape or, when
it is a control character without one, its number.  No such number is half of a
surrogate pair, so decoding gives the characters one by one.
-/
import Tablewright.Json.Quoted

namespace Tablewright.Json

open Document

/-- The pieces of what is scanned grow by one in front. -/
def scannedPast (piece : Piece) (scanned : List Piece × QuoteEnd × List Char) :
    List Piece × QuoteEnd × List Char :=
  (piece :: scanned.1, scanned.2)

/-! ### Scanning one character -/

theorem scanQuoted_plain {c : Char} (hquote : c ≠ '"') (hslash : c ≠ '\\')
    (hcontrol : ¬ c.toNat < 0x20) (rest : List Char) :
    scanQuoted (c :: rest) = scannedPast (.plain c) (scanQuoted rest) := by
  rw [scanQuoted]
  · simp [hquote, hslash, hcontrol, scannedPast]
  · intro x y z w after hc
    exact absurd hc hslash
  · intro e after hc
    exact absurd hc hslash

theorem scanQuoted_letter {e c : Char} (hunit : e ≠ 'u') (h : escapedChar? e = some c)
    (rest : List Char) :
    scanQuoted ('\\' :: e :: rest) = scannedPast (.plain c) (scanQuoted rest) := by
  rw [scanQuoted]
  · simp [hunit, h, scannedPast]
  · intro x y z w after he
    exact absurd he hunit

theorem scanQuoted_unit {a b c d : Char} {code : Nat} (h : hexUnit? a b c d = some code)
    (rest : List Char) :
    scanQuoted ('\\' :: 'u' :: a :: b :: c :: d :: rest)
      = scannedPast (.unit code) (scanQuoted rest) := by
  rw [scanQuoted, h]
  rfl

theorem scanQuoted_quote (rest : List Char) : scanQuoted ('"' :: rest) = ([], .closed, rest) := by
  rw [scanQuoted]
  · rfl
  · intro x y z w after hc
    cases hc
  · intro e after hc
    cases hc

/-- The digits of a control character are those of its number. -/
theorem hexUnit?_hexPair {n : Nat} (h : n < 0x20) :
    ∃ x y, hexPair n = [x, y] ∧ hexUnit? '0' '0' x y = some n := by
  have hall : ∀ k : Fin 0x20, hexUnit? '0' '0' (Nat.digitChar (k / 16)) (Nat.digitChar (k % 16))
      = some k.val := by decide
  exact ⟨_, _, rfl, hall ⟨n, h⟩⟩

/-- A written character is scanned as one piece, which decodes to it. -/
theorem scanQuoted_escapeChar (c : Char) : ∃ piece,
    (∀ rest, scanQuoted (escapeChar c ++ rest) = scannedPast piece (scanQuoted rest)) ∧
    ∀ ending pieces, decodePieces ending (piece :: pieces)
      = (c :: ·) <$> decodePieces ending pieces := by
  have hletter {e : Char} (hunit : e ≠ 'u') (h : escapedChar? e = some c) : ∃ piece,
      (∀ rest, scanQuoted (['\\', e] ++ rest) = scannedPast piece (scanQuoted rest)) ∧
      ∀ ending pieces, decodePieces ending (piece :: pieces)
        = (c :: ·) <$> decodePieces ending pieces :=
    ⟨.plain c, scanQuoted_letter hunit h, fun _ _ => rfl⟩
  unfold escapeChar
  split
  · rename_i hc
    exact hletter (by decide) (by rw [hc]; rfl)
  split
  · rename_i hc
    exact hletter (by decide) (by rw [hc]; rfl)
  split
  · rename_i hc
    exact hletter (by decide) (by rw [hc]; rfl)
  split
  · rename_i hc
    exact hletter (by decide) (by rw [hc]; rfl)
  split
  · rename_i hc
    exact hletter (by decide) (by rw [hc]; rfl)
  split
  · rename_i hc
    exact hletter (by decide) (by rw [hc]; rfl)
  split
  · rename_i hc
    exact hletter (by decide) (by rw [hc]; rfl)
  split
  · rename_i hcontrol
    obtain ⟨x, y, hpair, hcode⟩ := hexUnit?_hexPair hcontrol
    have hplain : isTrailing c.toNat = false ∧ isLeading c.toNat = false := by
      unfold isTrailing isLeading
      simp
      omega
    refine ⟨.unit c.toNat, fun rest => ?_, fun ending pieces => ?_⟩
    · rw [hpair]
      exact scanQuoted_unit hcode rest
    · rw [decodePieces.eq_def]
      dsimp only
      rw [hplain.1, hplain.2, Char.ofNat_toNat]
      rfl
  · rename_i hquote hslash _ _ _ _ _ hcontrol
    exact ⟨.plain c, scanQuoted_plain hquote hslash hcontrol, fun _ _ => rfl⟩

/-! ### Whole texts -/

/-- **A quoted text is scanned up to its closing quote, and decodes to the text.** -/
theorem scanQuoted_written (cs rest : List Char) : ∃ pieces,
    scanQuoted (cs.flatMap escapeChar ++ '"' :: rest) = (pieces, .closed, rest) ∧
      decodePieces .closed pieces = .ok cs := by
  induction cs with
  | nil => exact ⟨[], scanQuoted_quote rest, rfl⟩
  | cons c others ih =>
      obtain ⟨pieces, hscan, hdecode⟩ := ih
      obtain ⟨piece, hpiece, hchar⟩ := scanQuoted_escapeChar c
      refine ⟨piece :: pieces, ?_, ?_⟩
      · rw [List.flatMap_cons, List.append_assoc, hpiece, hscan]
        rfl
      · rw [hchar, hdecode]
        rfl

end Tablewright.Json
