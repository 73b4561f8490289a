/-
Results one after the other.

A step is looked at only where the one before it gave a value, so a chain of steps
fails exactly where one of them does and all before it do not.
-/
import Mathlib.Data.List.Forall2

namespace Tablewright

variable {ε δ α β : Type}

@[simp] theorem ok_bind (a : α) (next : α → Except ε β) : (Except.ok a >>= next) = next a := rfl

@[simp] theorem error_bind (failure : ε) (next : α → Except ε β) :
    (Except.error failure >>= next) = Except.error failure := rfl

@[simp] theorem mapError_ok (change : ε → δ) (a : α) :
    (Except.ok a).mapError change = Except.ok a := rfl

@[simp] theorem mapError_error (change : ε → δ) (failure : ε) :
    (Except.error failure : Except ε α).mapError change = Except.error (change failure) := rfl

theorem bind_eq_ok_iff {result : Except ε α} {next : α → Except ε β} {b : β} :
    (result >>= next) = .ok b ↔ ∃ a, result = .ok a ∧ next a = .ok b := by
  cases result <;> simp

theorem bind_eq_error_iff {result : Except ε α} {next : α → Except ε β} {failure : ε} :
    (result >>= next) = .error failure ↔
      result = .error failure ∨ ∃ a, result = .ok a ∧ next a = .error failure := by
  cases result <;> simp

theorem mapError_eq_ok_iff {result : Except ε α} {change : ε → δ} {a : α} :
    result.mapError change = .ok a ↔ result = .ok a := by
  cases result <;> simp

theorem mapError_eq_error_iff {result : Except ε α} {change : ε → δ} {failure : δ} :
    result.mapError change = .error failure ↔ ∃ cause, result = .error cause ∧ change cause = failure := by
  cases result <;> simp

theorem toOption_eq_some_iff {result : Except ε α} {a : α} :
    result.toOption = some a ↔ result = .ok a := by
  cases result <;> simp [Except.toOption]

/-- Steps over a list give values where each of them does, in the same places. -/
theorem mapM_eq_ok_iff {action : α → Except ε β} {l : List α} {values : List β} :
    l.mapM action = .ok values ↔ List.Forall₂ (fun a b => action a = .ok b) l values := by
  induction l generalizing values with
  | nil =>
      rw [List.forall₂_nil_left_iff]
      exact ⟨fun h => (Except.ok.inj h).symm, fun h => congrArg Except.ok h.symm⟩
  | cons a rest ih =>
      rw [List.mapM_cons, bind_eq_ok_iff, List.forall₂_cons_left_iff]
      constructor
      · rintro ⟨b, hb, h⟩
        obtain ⟨others, hothers, h⟩ := bind_eq_ok_iff.mp h
        exact ⟨b, others, hb, ih.mp hothers, (Except.ok.inj h).symm⟩
      · rintro ⟨b, others, hb, hothers, rfl⟩
        exact ⟨b, hb, bind_eq_ok_iff.mpr ⟨others, ih.mpr hothers, rfl⟩⟩

end Tablewright
