/-
What follows the path of a connect string.

A query names none of the parts.  The slash before it ends the authority, so nothing
in the query is taken for an at sign or a colon of it, and the path ends where the
query starts.  So a connect string with a query is taken apart as it is without one,
whatever the query says.
-/
import Mathlib.Data.List.TakeWhile
import Tablewright.Proofs.Url

namespace Tablewright.Url

section Runs

variable {α : Type} {p : α → Bool} {a : α}

theorem takeWhile_append_stop (h : p a = false) (before after : List α) :
    (before ++ a :: after).takeWhile p = before.takeWhile p := by
  induction before with
  | nil => exact List.takeWhile_cons_of_neg (by simp [h])
  | cons b rest ih =>
      rw [List.cons_append, List.takeWhile_cons, List.takeWhile_cons, ih]

theorem dropWhile_append_stop (h : p a = false) (before after : List α) :
    (before ++ a :: after).dropWhile p = before.dropWhile p ++ a :: after := by
  induction before with
  | nil => exact List.dropWhile_cons_of_neg (by simp [h])
  | cons b rest ih =>
      rw [List.cons_append, List.dropWhile_cons, List.dropWhile_cons, ih]
      split
      · rfl
      · rfl

end Runs

/-- The path ends where the query starts. -/
theorem pathOf_query (before after : List Char) :
    pathOf (before ++ '?' :: after) = pathOf before := by
  have hbefore : beforeQuery (before ++ '?' :: after) = beforeQuery before :=
    takeWhile_append_stop (by decide) before after
  unfold pathOf
  rw [hbefore]

/-- Behind an authority that has ended, a query changes nothing. -/
theorem parseAuthority_query {before : List Char} (h : ∃ c ∈ before, endsAuthority .general c = true)
    (after : List Char) : parseAuthority (before ++ '?' :: after) = parseAuthority before := by
  have htake := takeWhile_append_stop (p := fun c => !endsAuthority .general c) (a := '?') rfl
    before after
  have hdrop := dropWhile_append_stop (p := fun c => !endsAuthority .general c) (a := '?') rfl
    before after
  have hpath : before.dropWhile (fun c => !endsAuthority .general c) ≠ [] := by
    intro hnil
    obtain ⟨c, hc, hends⟩ := h
    have hgoesOn := List.dropWhile_eq_nil_iff.mp hnil c hc
    simp [hends] at hgoesOn
  have hrest (rest path : List Char) :
      pathOf (rest ++ (path ++ '?' :: after)) = pathOf (rest ++ path) := by
    rw [← List.append_assoc, pathOf_query]
  unfold parseAuthority
  simp only [htake, hdrop, hrest]
  simp [hpath]

theorem cleanedEnd_query {before : List Char} (h : ∀ c ∈ before, ' ' < c) (query : List Char) :
    cleanedEnd (before ++ '?' :: query) = before ++ '?' :: cleanedEnd query := by
  have hsign : ∀ c ∈ before ++ ['?'], ' ' < c := by
    intro c hc
    rcases List.mem_append.mp hc with hmem | hmem
    · exact h c hmem
    · rw [List.mem_singleton.mp hmem]
      decide
  have happend := cleanedEnd_append hsign query
  simpa using happend

/-- **A query changes nothing in how a connect string is taken apart.** -/
theorem parse_query {u : User} (hu : u.Written) {host : List Char}
    (hhost : ∀ c ∈ host, isHostChar c = true) (port : Port) {path : List Char}
    (hpath : ∀ c ∈ path, escapedInPath c = false) (query : List Char) :
    parse (loginString u (placeText host port path ++ '?' :: query))
      = parse (loginString u (placeText host port path)) := by
  have hunblank := unblank_of_written hu hhost port hpath
  have hends : ∃ c ∈ u.text ++ '@' :: placeText host port path, endsAuthority .general c = true := by
    refine ⟨'/', ?_, rfl⟩
    simp [placeText]
  have htext : u.text ++ '@' :: (placeText host port path ++ '?' :: query)
      = (u.text ++ '@' :: placeText host port path) ++ '?' :: query := by
    rw [List.append_assoc, List.cons_append]
  unfold loginString
  rw [parse_postgresql, parse_postgresql, htext, cleanedEnd_query hunblank,
    cleanedEnd_of_unblank hunblank, parseAuthority_query hends]

end Tablewright.Url
