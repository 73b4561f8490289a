/-
Paths of one segment.

A text without slashes is one segment, and so is what it is escaped to.  Escaping
adds no dots and hides none, so the path of such a text is the escaped text behind
a slash, or the slash alone when the text is one or two dots.  A path that was
written reads back as it is.
-/
import Tablewright.Proofs.Url.Percent
import Tablewright.Url.Path

namespace Tablewright.Url

open Text (hexValue?)

/-! ### Dots -/

/-- What follows the percent sign of an escaped dot. -/
def StartsDot (cs : List Char) : Prop :=
  ∃ rest, cs = '2' :: 'e' :: rest ∨ cs = '2' :: 'E' :: rest

/-- A segment that is one or two dots, however they are written. -/
def IsDots (cs : List Char) : Prop :=
  plainDots cs = ['.'] ∨ plainDots cs = ['.', '.']

instance (cs : List Char) : Decidable (IsDots cs) :=
  inferInstanceAs (Decidable (_ ∨ _))

theorem plainDots_cons {c : Char} {rest : List Char} (h : c = '%' → ¬ StartsDot rest) :
    plainDots (c :: rest) = c :: plainDots rest := by
  rw [plainDots]
  · intro after hc hrest
    exact h hc ⟨after, Or.inl hrest⟩
  · intro after hc hrest
    exact h hc ⟨after, Or.inr hrest⟩

theorem startsDot_encode {isEscaped : Char → Bool} {cs : List Char}
    (h : StartsDot (encode isEscaped cs)) : StartsDot cs := by
  obtain ⟨rest, hrest | hrest⟩ := h
  all_goals
    obtain ⟨others, hcs, hothers⟩ := encode_eq_cons (by decide) hrest
    obtain ⟨after, hafter, -⟩ := encode_eq_cons (by decide) hothers
    refine ⟨after, ?_⟩
    simp [hcs, hafter]

/-- The escape of an octet that is no dot is none. -/
theorem plainDots_escape {o : Nat} {a b : Char} (hhigh : hexValue? a = some (o / 16))
    (hlow : hexValue? b = some (o % 16)) (hdot : o ≠ '.'.toNat) (rest : List Char) :
    plainDots ('%' :: a :: b :: rest) = '%' :: a :: b :: plainDots rest := by
  have hnone : ¬ StartsDot (a :: b :: rest) := by
    rintro ⟨after, hafter | hafter⟩
    all_goals
      simp only [List.cons.injEq] at hafter
      rw [hafter.1] at hhigh
      rw [hafter.2.1] at hlow
      have h2 : 2 = o / 16 := Option.some.inj hhigh
      have h14 : 14 = o % 16 := Option.some.inj hlow
      exact hdot (show o = 46 by omega)
  have hplainhigh : a ≠ '%' := hexValue?_ne_percent (by simp [hhigh])
  have hplainlow : b ≠ '%' := hexValue?_ne_percent (by simp [hlow])
  rw [plainDots_cons fun _ => hnone, plainDots_cons fun heq => absurd heq hplainhigh,
    plainDots_cons fun heq => absurd heq hplainlow]

theorem plainDots_escaped {o : Nat} (h : o < 256) (hdot : o ≠ '.'.toNat) (rest : List Char) :
    plainDots (escaped o ++ rest) = escaped o ++ plainDots rest :=
  plainDots_escape (escaped_digits (by omega)) (escaped_digits (by omega)) hdot rest

theorem plainDots_flatMap_escaped {os : List Nat} (h : ∀ o ∈ os, o < 256 ∧ o ≠ '.'.toNat)
    (rest : List Char) :
    plainDots (os.flatMap escaped ++ rest) = os.flatMap escaped ++ plainDots rest := by
  induction os with
  | nil => rfl
  | cons o others ih =>
      rw [List.forall_mem_cons] at h
      rw [List.flatMap_cons, List.append_assoc, plainDots_escaped h.1.1 h.1.2, ih h.2,
        List.append_assoc]

/-- Escaping neither adds dots to a segment nor hides any. -/
theorem plainDots_encode {isEscaped : Char → Bool} (hkeeps : KeepsEscapes isEscaped)
    (hdot : isEscaped '.' = false) (cs : List Char) :
    plainDots (encode isEscaped cs) = encode isEscaped (plainDots cs) := by
  have hplain {c : Char} (hc : hexValue? c ≠ none) (rest : List Char) :
      encode isEscaped (c :: rest) = c :: encode isEscaped rest :=
    encode_cons_of_plain (hkeeps.digit c hc) rest
  induction cs using plainDots.induct with
  | case1 rest ih =>
      rw [encode_cons_of_plain hkeeps.percent, hplain (by decide), hplain (by decide), plainDots,
        plainDots, encode_cons_of_plain hdot, ih]
  | case2 rest ih =>
      rw [encode_cons_of_plain hkeeps.percent, hplain (by decide), hplain (by decide), plainDots,
        plainDots, encode_cons_of_plain hdot, ih]
  | case3 c rest hlower hupper ih =>
      have hc : c = '%' → ¬ StartsDot rest := by
        rintro hpercent ⟨after, hafter | hafter⟩
        · exact hlower after hpercent hafter
        · exact hupper after hpercent hafter
      rw [plainDots_cons hc]
      cases hescaped : isEscaped c with
      | true =>
          have hoctets : ∀ o ∈ Utf8.encodeChar c, o < 256 ∧ o ≠ '.'.toNat := by
            intro o ho
            refine ⟨Utf8.encodeChar_lt c o ho, ?_⟩
            rintro rfl
            rw [Utf8.eq_of_mem_encodeChar (by decide) ho, hdot] at hescaped
            cases hescaped
          rw [encode_cons_of_escaped hescaped, encode_cons_of_escaped hescaped,
            plainDots_flatMap_escaped hoctets, ih]
      | false =>
          rw [encode_cons_of_plain hescaped, encode_cons_of_plain hescaped,
            plainDots_cons fun hpercent => mt startsDot_encode (hc hpercent), ih]
  | case4 => rfl

theorem isDots_encode {isEscaped : Char → Bool} (hkeeps : KeepsEscapes isEscaped)
    (hdot : isEscaped '.' = false) (cs : List Char) :
    IsDots (encode isEscaped cs) ↔ IsDots cs := by
  have hplain : ∀ c ∈ ['.'], c ≠ '%' ∧ isEscaped c = false := by simp [hdot]
  unfold IsDots
  rw [plainDots_encode hkeeps hdot, encode_eq_iff (by simp [hdot]), encode_eq_iff (by simp [hdot])]

/-! ### The path of one segment -/

theorem segments_of_notMem {cs : List Char} (h : '/' ∉ cs) : segments cs = [cs] := by
  induction cs with
  | nil => rfl
  | cons c rest ih =>
      rw [List.mem_cons, not_or] at h
      rw [segments, ih h.2]
      exact if_neg (Ne.symm h.1)

theorem resolveDots_singleton (segment : List Char) :
    resolveDots [] [segment] = [if IsDots segment then [] else segment] := by
  unfold resolveDots resolveDots
  split
  · rename_i hdot
    have hdots : IsDots segment := Or.inl hdot
    simp [hdots]
  · rename_i hdot
    have hdots : IsDots segment := Or.inr hdot
    simp [hdots, takeBack]
  · rename_i hone htwo
    have hdots : ¬ IsDots segment := not_or.mpr ⟨hone, htwo⟩
    simp [hdots]

/-- Tabs and line breaks are escaped. -/
theorem isKept_of_plain (c : Char) (h : escapedInPath c = false) : isKept c = true :=
  forall_pathChar (p := fun c => isKept c = true) (by decide) c h

/-- What the path of a text without slashes has behind its slash. -/
def segmentOf (cs : List Char) : List Char :=
  let kept := cs.filter isKept
  if IsDots kept then [] else encode escapedInPath kept

theorem slash_notMem_segmentOf {cs : List Char} (h : '/' ∉ cs) : '/' ∉ segmentOf cs := by
  unfold segmentOf
  dsimp only
  split
  · simp
  · intro hmem
    exact h (List.mem_filter.mp (mem_of_mem_encode (by decide) hmem)).1

theorem plain_of_mem_segmentOf {cs : List Char} :
    ∀ c ∈ segmentOf cs, escapedInPath c = false := by
  unfold segmentOf
  dsimp only
  split
  · simp
  · exact plain_of_mem_encode keepsEscapes_escapedInPath

theorem normalizedPath_of_notMem {cs : List Char} (h : '/' ∉ cs) :
    normalizedPath cs = '/' :: segmentOf cs := by
  have hslash : '/' ∉ encode escapedInPath (cs.filter isKept) := fun hmem =>
    h (List.mem_filter.mp (mem_of_mem_encode (by decide) hmem)).1
  unfold normalizedPath segmentOf
  rw [segments_of_notMem hslash, resolveDots_singleton]
  simp only [isDots_encode keepsEscapes_escapedInPath (by decide), List.flatMap_cons,
    List.flatMap_nil, List.append_nil]

theorem not_isDots_nil : ¬ IsDots [] := by
  decide

/-- What was written as a segment is written the same again. -/
theorem segmentOf_segmentOf (cs : List Char) : segmentOf (segmentOf cs) = segmentOf cs := by
  have hplain : ∀ c ∈ segmentOf cs, escapedInPath c = false := plain_of_mem_segmentOf
  have hkept : (segmentOf cs).filter isKept = segmentOf cs :=
    List.filter_eq_self.mpr fun c hc => isKept_of_plain c (hplain c hc)
  have hdots : ¬ IsDots (segmentOf cs) := by
    unfold segmentOf
    dsimp only
    split
    · exact not_isDots_nil
    · rwa [isDots_encode keepsEscapes_escapedInPath (by decide)]
  have hagain : segmentOf (segmentOf cs) = if IsDots ((segmentOf cs).filter isKept) then []
      else encode escapedInPath ((segmentOf cs).filter isKept) := rfl
  rw [hagain, hkept, if_neg hdots, encode_of_plain hplain]

end Tablewright.Url
