/-
Hosts of connect strings stay as they are.

What a host is written as needs no more escapes, and an address in brackets is
written as it reads back.  So a host that was taken out of a connect string can be
given on its own.
-/
import Tablewright.Proofs.Result
import Tablewright.Proofs.Url.Address
import Tablewright.Proofs.Url.Percent
import Tablewright.Url.Host

namespace Tablewright.Url

open Text (hexValue?)

/-- A character that stands in a host as it is. -/
def IsClean (c : Char) : Prop :=
  isForbiddenInHost c = false ∧ isControl c = false

instance (c : Char) : Decidable (IsClean c) :=
  inferInstanceAs (Decidable (_ ∧ _))

variable {host : List Char}

/-! ### Names -/

theorem bracketed?_clean (h : ∀ c ∈ host, IsClean c) : bracketed? host = none := by
  unfold bracketed?
  split
  · cases (h '[' List.mem_cons_self).1
  · rfl

theorem hostOf_clean (h : ∀ c ∈ host, IsClean c) : hostOf host = .ok host := by
  have hany : ¬ host.any isForbiddenInHost = true := by
    simpa using fun c hc => (h c hc).1
  unfold hostOf
  rw [bracketed?_clean h, encode_of_plain fun c hc => (h c hc).2]
  exact if_neg hany

theorem hostOfText_clean (h : ∀ c ∈ host, IsClean c) : hostOfText host = .ok host := by
  have hcolon : ∀ c ∈ host, decide (c ≠ ':') = true := by
    intro c hc
    rw [decide_eq_true_eq]
    rintro rfl
    cases (h ':' hc).1
  unfold hostOfText
  split
  · cases (h ':' List.mem_cons_self).1
  · cases (h '[' List.mem_cons_self).1
  · rw [Text.takeWhile_all hcolon, hostOf_clean h]

theorem keepsEscapes_isControl : KeepsEscapes isControl where
  percent := by decide
  digit c hc := forall_ascii (p := fun c => hexValue? c ≠ none → isControl c = false)
    (by decide) c (lt_of_hexValue? hc) hc

theorem sign_of_isForbiddenInHost {c : Char} (h : isForbiddenInHost c = true) :
    c ≠ '%' ∧ hexValue? c = none := by
  have hall : ("\x00\t\n\r #/:<>?@[\\]^|".toList.all fun d => d ≠ '%' ∧ hexValue? d = none)
      = true := by
    rfl
  exact of_decide_eq_true (List.all_eq_true.mp hall c (List.contains_iff_mem.mp h))

/-- Escapes add nothing that a host cannot hold. -/
theorem clean_of_encode (h : host.any isForbiddenInHost = false) :
    ∀ c ∈ encode isControl host, IsClean c := by
  intro c hc
  refine ⟨?_, plain_of_mem_encode keepsEscapes_isControl c hc⟩
  rw [Bool.eq_false_iff]
  intro hforbidden
  have hmem := mem_of_mem_encode (sign_of_isForbiddenInHost hforbidden) hc
  exact List.any_eq_false.mp h c hmem hforbidden

/-! ### Addresses -/

theorem hostOfText_address {a : Address} (h : a.WellFormed) :
    hostOfText ('[' :: (a.text ++ [']'])) = .ok ('[' :: (a.text ++ [']'])) := by
  have hlast : ('[' :: (a.text ++ [']'])).getLast? = some ']' := by
    rw [← List.cons_append, List.getLast?_concat]
  have hbracketed : bracketed? ('[' :: (a.text ++ [']'])) = some (.ok a.text) := by
    simp [bracketed?]
  have haddress : addressHost a.text = .ok ('[' :: (a.text ++ [']'])) := by
    rw [addressHost, Address.parse?_text h]
    rfl
  unfold hostOfText hostOf
  rw [hbracketed]
  simp only [hlast, if_true, ok_bind, haddress]

/-- **A host that was taken out of a connect string is one on its own.** -/
theorem hostOfText_hostOf {cs : List Char} (h : hostOf cs = .ok host) :
    hostOfText host = .ok host := by
  unfold hostOf at h
  split at h
  · obtain ⟨inner, -, h⟩ := bind_eq_ok_iff.mp h
    unfold addressHost at h
    split at h
    · rename_i a ha
      rw [← Except.ok.inj h]
      exact hostOfText_address (Address.wellFormed_of_parse? ha)
    · cases h
  · split at h
    · cases h
    · rename_i hany
      rw [Bool.not_eq_true] at hany
      rw [← Except.ok.inj h]
      exact hostOfText_clean (clean_of_encode hany)

end Tablewright.Url
