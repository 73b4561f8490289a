/-
Looking up entries and collecting them.

What is found in a list of named values is one of them; so what holds of every
line of a table holds of whatever the table is asked for.  Something is found exactly
where the name is one of the list.

Pairs are collected one after the other.  So the names of the entries stand in the
order of their first appearance, and each entry has the value that its name was given
last.  `Collects` says this without the way it comes about; the inductions that lead
there go over the pairs from behind.
-/
import Mathlib.Data.List.Forall2
import Mathlib.Data.List.Induction
import Tablewright.Entries

namespace Tablewright

variable {κ α : Type} [BEq κ] [LawfulBEq κ]

theorem mem_of_lookup {entries : List (κ × α)} {key : κ} {value : α}
    (h : entries.lookup key = some value) : (key, value) ∈ entries := by
  obtain ⟨before, after, hsplit, -⟩ := List.lookup_eq_some_iff.mp h
  rw [hsplit]
  simp

theorem isSome_lookup_iff {entries : List (κ × α)} {key : κ} :
    (entries.lookup key).isSome ↔ key ∈ entries.map Prod.fst := by
  rw [List.lookup_isSome_iff, List.mem_map]
  exact exists_congr fun entry => and_congr_right fun _ => beq_iff_eq.trans eq_comm

theorem lookup_eq_none_of_notMem {entries : List (κ × α)} {key : κ}
    (h : key ∉ entries.map Prod.fst) : entries.lookup key = none :=
  Option.not_isSome_iff_eq_none.mp (mt isSome_lookup_iff.mp h)

namespace Entries

variable {α β : Type}

/-- The entries have the names of the pairs, each where it is first given, and with the value that
it is given last. -/
structure Collects (pairs entries : List (String × α)) : Prop where
  names : entries.map Prod.fst = (pairs.map Prod.fst).eraseDups
  values : ∀ entry ∈ entries, pairs.reverse.lookup entry.1 = some entry.2

theorem names_put (name : String) (value : α) (entries : List (String × α)) :
    (put name value entries).map Prod.fst =
      if name ∈ entries.map Prod.fst then entries.map Prod.fst
      else entries.map Prod.fst ++ [name] := by
  induction entries with
  | nil => rfl
  | cons entry rest ih =>
      obtain ⟨other, old⟩ := entry
      rw [put]
      by_cases hsame : other = name
      · simp [hsame]
      · rw [if_neg hsame, List.map_cons, ih, List.map_cons]
        simp only [List.mem_cons, Ne.symm hsame, false_or]
        split <;> rfl

/-- A new name goes behind the others. -/
theorem put_of_notMem {name : String} {value : α} {entries : List (String × α)}
    (h : name ∉ entries.map Prod.fst) : put name value entries = entries ++ [(name, value)] := by
  induction entries with
  | nil => rfl
  | cons entry rest ih =>
      rw [List.map_cons, List.mem_cons, not_or] at h
      rw [put, if_neg (Ne.symm h.1), ih h.2, List.cons_append]

/-- An entry is the one that was put last, or one that was there under another name. -/
theorem mem_put {name : String} {value : α} {entries : List (String × α)}
    (hdistinct : (entries.map Prod.fst).Nodup) {entry : String × α}
    (h : entry ∈ put name value entries) :
    entry = (name, value) ∨ entry ∈ entries ∧ entry.1 ≠ name := by
  induction entries with
  | nil => exact .inl (List.mem_singleton.mp h)
  | cons first rest ih =>
      obtain ⟨other, old⟩ := first
      rw [List.map_cons, List.nodup_cons] at hdistinct
      rw [put] at h
      split at h
      · rename_i hsame
        subst hsame
        rcases List.mem_cons.mp h with rfl | hrest
        · exact .inl rfl
        · refine .inr ⟨List.mem_cons_of_mem _ hrest, fun hname => hdistinct.1 ?_⟩
          exact hname ▸ List.mem_map.mpr ⟨entry, hrest, rfl⟩
      · rename_i hne
        rcases List.mem_cons.mp h with rfl | hrest
        · exact .inr ⟨List.mem_cons_self, hne⟩
        · rcases ih hdistinct.2 hrest with hput | ⟨hold, hother⟩
          · exact .inl hput
          · exact .inr ⟨List.mem_cons_of_mem _ hold, hother⟩

theorem ofList_append (pairs : List (String × α)) (pair : String × α) :
    ofList (pairs ++ [pair]) = put pair.1 pair.2 (ofList pairs) := by
  rw [ofList, List.foldl_append]
  rfl

theorem eraseDups_append (names : List String) (name : String) :
    (names ++ [name]).eraseDups =
      if name ∈ names.eraseDups then names.eraseDups else names.eraseDups ++ [name] := by
  rw [List.eraseDups_append]
  by_cases hmem : name ∈ names
  · simp [List.removeAll, hmem]
  · simp [List.removeAll, hmem, List.eraseDups_cons]

/-- **What is made of pairs collects them.** -/
theorem collects_ofList (pairs : List (String × α)) : Collects pairs (ofList pairs) := by
  induction pairs using List.reverseRecOn with
  | nil => exact ⟨rfl, by simp [ofList]⟩
  | append_singleton pairs pair ih =>
      rw [ofList_append]
      constructor
      · rw [names_put, ih.names, List.map_append, List.map_singleton, eraseDups_append]
      · intro entry hentry
        rw [List.reverse_append, List.reverse_singleton, List.singleton_append, List.lookup_cons]
        rcases mem_put (nodup_ofList pairs) hentry with rfl | ⟨hold, hne⟩
        · simp
        · rw [beq_false_of_ne hne]
          exact ih.values entry hold

theorem Collects.nodup {pairs entries : List (String × α)} (h : Collects pairs entries) :
    (entries.map Prod.fst).Nodup := by
  rw [h.names, ← (collects_ofList pairs).names]
  exact nodup_ofList pairs

/-- Pairs of distinct names are the entries already. -/
theorem ofList_of_nodup {pairs : List (String × α)} (h : (pairs.map Prod.fst).Nodup) :
    ofList pairs = pairs := by
  induction pairs using List.reverseRecOn with
  | nil => rfl
  | append_singleton pairs pair ih =>
      rw [List.map_append, List.map_singleton] at h
      obtain ⟨hpairs, -, hapart⟩ := List.nodup_append.mp h
      have hnew : pair.1 ∉ pairs.map Prod.fst :=
        fun hmem => hapart pair.1 hmem pair.1 (List.mem_singleton.mpr rfl) rfl
      rw [ofList_append, ih hpairs, put_of_notMem hnew]

/-- Pairs that correspond to others, names included, are collected to corresponding entries. -/
theorem forall₂_put {R : String × α → String × β → Prop} (hname : ∀ a b, R a b → a.1 = b.1)
    {pair : String × α} {other : String × β} (hpair : R pair other)
    {entries : List (String × α)} {others : List (String × β)} (h : List.Forall₂ R entries others) :
    List.Forall₂ R (put pair.1 pair.2 entries) (put other.1 other.2 others) := by
  obtain ⟨name, value⟩ := pair
  obtain ⟨_, another⟩ := other
  obtain rfl := hname _ _ hpair
  induction h with
  | nil => exact .cons hpair .nil
  | @cons first second rest others hfirst hrest ih =>
      obtain ⟨given, old⟩ := first
      obtain ⟨_, older⟩ := second
      obtain rfl := hname _ _ hfirst
      rw [put, put]
      split
      · rename_i hsame
        subst hsame
        exact .cons hpair hrest
      · exact .cons hfirst ih

theorem forall₂_ofList {R : String × α → String × β → Prop} (hname : ∀ a b, R a b → a.1 = b.1)
    {pairs : List (String × α)} {others : List (String × β)} (h : List.Forall₂ R pairs others) :
    List.Forall₂ R (ofList pairs) (ofList others) := by
  have general : ∀ {entries : List (String × α)} {more : List (String × β)},
      List.Forall₂ R entries more →
        List.Forall₂ R (pairs.foldl (fun entries pair => put pair.1 pair.2 entries) entries)
          (others.foldl (fun entries pair => put pair.1 pair.2 entries) more) := by
    induction h with
    | nil => exact fun hstart => hstart
    | cons hfirst _ ih => exact fun hstart => ih (forall₂_put hname hfirst hstart)
  exact general .nil

end Entries

end Tablewright
