/-
Named entries in the order of their first appearance.

An entry given again takes the place of the earlier one, and keeps its position.
So no two entries have one name, and every value is one that was given.
-/
namespace Tablewright.Entries

variable {α : Type}

/-- Adds an entry, or replaces the value of the one with this name. -/
def put (name : String) (value : α) : List (String × α) → List (String × α)
  | [] => [(name, value)]
  | (other, old) :: rest =>
    if other = name then (other, value) :: rest else (other, old) :: put name value rest

/-- The entries of a list of pairs, later pairs taken over earlier ones. -/
def ofList (pairs : List (String × α)) : List (String × α) :=
  pairs.foldl (fun entries pair => put pair.1 pair.2 entries) []

/-! ### Names -/

/-- Replacing or adding an entry adds at most its name. -/
theorem mem_names_put {name other : String} {value : α} {entries : List (String × α)}
    (h : other ∈ (put name value entries).map Prod.fst) :
    other = name ∨ other ∈ entries.map Prod.fst := by
  induction entries with
  | nil => simp [put] at h; exact Or.inl h
  | cons entry rest ih =>
    obtain ⟨first, old⟩ := entry
    simp only [put] at h
    split at h
    · exact Or.inr (by simpa using h)
    · simp only [List.map_cons, List.mem_cons] at h ⊢
      rcases h with h | h
      · exact Or.inr (Or.inl h)
      · rcases ih h with h | h
        · exact Or.inl h
        · exact Or.inr (Or.inr h)

/-- Replacing or adding an entry keeps the names distinct. -/
theorem nodup_put {name : String} {value : α} {entries : List (String × α)}
    (h : (entries.map Prod.fst).Nodup) : ((put name value entries).map Prod.fst).Nodup := by
  induction entries with
  | nil => simp [put]
  | cons entry rest ih =>
    obtain ⟨first, old⟩ := entry
    simp only [List.map_cons, List.nodup_cons] at h
    simp only [put]
    split
    · simpa using h
    · rename_i hne
      simp only [List.map_cons, List.nodup_cons]
      refine ⟨fun hmem => ?_, ih h.2⟩
      rcases mem_names_put hmem with hc | hc
      · exact hne hc
      · exact h.1 hc

/-- The entries of a list of pairs have distinct names. -/
theorem nodup_ofList (pairs : List (String × α)) : ((ofList pairs).map Prod.fst).Nodup := by
  have general : ∀ (pairs entries : List (String × α)), (entries.map Prod.fst).Nodup →
      ((pairs.foldl (fun entries pair => put pair.1 pair.2 entries) entries).map
        Prod.fst).Nodup := by
    intro pairs
    induction pairs with
    | nil => intro entries h; exact h
    | cons pair rest ih => intro entries h; exact ih _ (nodup_put h)
  exact general pairs [] (by simp)

/-! ### Values -/

/-- After replacing or adding an entry, every value is the new one or one that was there. -/
theorem value_mem_put {name : String} {value : α} {entries : List (String × α)}
    {entry : String × α} (h : entry ∈ put name value entries) :
    entry.2 = value ∨ entry.2 ∈ entries.map Prod.snd := by
  induction entries with
  | nil =>
    simp only [put, List.mem_singleton] at h
    exact Or.inl (by rw [h])
  | cons first rest ih =>
    obtain ⟨other, old⟩ := first
    simp only [put] at h
    split at h
    · rcases List.mem_cons.mp h with h | h
      · exact Or.inl (by rw [h])
      · exact Or.inr (List.mem_map_of_mem (List.mem_cons_of_mem _ h))
    · rcases List.mem_cons.mp h with h | h
      · exact Or.inr (by simp [h])
      · rcases ih h with h | h
        · exact Or.inl h
        · exact Or.inr (List.mem_cons_of_mem _ h)

/-- Every value of the entries is a value of the pairs. -/
theorem value_mem_of_mem_ofList {pairs : List (String × α)} {entry : String × α}
    (h : entry ∈ ofList pairs) : entry.2 ∈ pairs.map Prod.snd := by
  have general : ∀ (pairs entries : List (String × α)),
      ∀ e ∈ pairs.foldl (fun entries pair => put pair.1 pair.2 entries) entries,
        e.2 ∈ entries.map Prod.snd ∨ e.2 ∈ pairs.map Prod.snd := by
    intro pairs
    induction pairs with
    | nil => intro entries e he; exact Or.inl (List.mem_map_of_mem he)
    | cons pair rest ih =>
      intro entries e he
      rcases ih _ e he with h | h
      · obtain ⟨x, hx, hxe⟩ := List.mem_map.mp h
        rcases value_mem_put hx with h | h
        · exact Or.inr (by simp [← hxe, h])
        · exact Or.inl (hxe ▸ h)
      · exact Or.inr (List.mem_cons_of_mem _ h)
  rcases general pairs [] entry h with h | h
  · simp at h
  · exact h

end Tablewright.Entries
