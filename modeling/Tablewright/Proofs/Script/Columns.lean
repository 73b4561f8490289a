/-
Column definitions say what they were written of.

Nothing but spaces stands between the parts of a definition, and a type may have
several words.  But each constraint begins with a word of its own, the constraints
stand in a fixed order, and only the last of them, the check, may be of any length.
So the type ends at the first of these words, and from there on it takes one look at
the next word to know whether a constraint is there.

A default may be one of these words itself, and a check may hold all of them: both
are read as what follows their own first word.
-/
import Tablewright.Proofs.Result
import Tablewright.Proofs.Script
import Tablewright.Proofs.Text.Digits
import Tablewright.Proofs.Text.Words

namespace Tablewright

open Text (upper words)

namespace Script

/-! ### Clauses -/

/-- The first words of the constraints, in the order in which they stand. -/
def clauseWords : List String :=
  ["PRIMARY", "NOT", "UNIQUE", "DEFAULT", "CHECK"]

/-- A clause that may be missing: its first word and what stands behind it. -/
def clause (first : String) (body : Option (List String)) : List String :=
  (body.map (first :: ·)).getD []

/-- The list begins with one of these words, unless it is empty. -/
def BeginsIn (firsts : List String) (l : List String) : Prop :=
  ∀ word ∈ l.head?, word ∈ firsts

theorem beginsIn_nil (firsts : List String) : BeginsIn firsts [] := by
  simp [BeginsIn]

theorem BeginsIn.clause_append {firsts l : List String} (h : BeginsIn firsts l) (first : String)
    (body : Option (List String)) : BeginsIn (first :: firsts) (clause first body ++ l) := by
  intro word hword
  cases body with
  | none => exact List.mem_cons_of_mem first (h word hword)
  | some behind =>
      rw [← Option.some.inj hword]
      exact List.mem_cons_self

section Cuts

variable {first : String} {firsts : List String} {a b : Option (List String)} {l k : List String}

/-- **What begins with other words tells whether a clause is there.**  If it is, its length tells
where it ends. -/
theorem clause_append_inj (hfirst : first ∉ firsts) (hl : BeginsIn firsts l)
    (hk : BeginsIn firsts k) (hlength : ∀ x ∈ a, ∀ y ∈ b, x.length = y.length)
    (h : clause first a ++ l = clause first b ++ k) : a = b ∧ l = k := by
  cases a with
  | none =>
      cases b with
      | none => exact ⟨rfl, h⟩
      | some y =>
          have hmem : first ∈ l.head? := by
            rw [show l = first :: (y ++ k) from h]
            rfl
          exact absurd (hl first hmem) hfirst
  | some x =>
      cases b with
      | none =>
          have hmem : first ∈ k.head? := by
            rw [← show first :: (x ++ l) = k from h]
            rfl
          exact absurd (hk first hmem) hfirst
      | some y =>
          obtain ⟨-, hbehind⟩ := List.cons.inj h
          obtain ⟨rfl, rfl⟩ := List.append_inj hbehind (hlength x rfl y rfl)
          exact ⟨rfl, rfl⟩

/-- A clause with nothing behind it may be of any length. -/
theorem clause_inj (h : clause first a = clause first b) : a = b := by
  cases a with
  | none =>
      cases b with
      | none => rfl
      | some y => cases h
  | some x =>
      cases b with
      | none => cases h
      | some y =>
          obtain ⟨-, rfl⟩ := List.cons.inj h
          rfl

/-- Words that begin no clause end where the first clause begins. -/
theorem append_clauses_inj {type other : List String} (htype : ∀ word ∈ type, word ∉ firsts)
    (hother : ∀ word ∈ other, word ∉ firsts) (hl : BeginsIn firsts l) (hk : BeginsIn firsts k)
    (h : type ++ l = other ++ k) : type = other ∧ l = k := by
  have hrun {run : List String} (hrun : ∀ word ∈ run, word ∉ firsts) :
      ∀ word ∈ run, decide (word ∉ firsts) = true :=
    fun word hword => decide_eq_true (hrun word hword)
  have hend {rest : List String} (hrest : BeginsIn firsts rest) :
      ∀ word ∈ rest.head?, decide (word ∉ firsts) = false :=
    fun word hword => decide_eq_false (not_not_intro (hrest word hword))
  have hcut : type = other := by
    rw [← Text.takeWhile_run (hrun htype) (hend hl), h, Text.takeWhile_run (hrun hother) (hend hk)]
  rw [hcut] at h
  exact ⟨hcut, List.append_cancel_left h⟩

end Cuts

/-! ### The words of a definition -/

/-- What stands behind the first word of a flag that is set. -/
def flagWords (set : Bool) (behind : List String) : Option (List String) :=
  if set then some behind else none

theorem flagWords_inj {set other : Bool} {behind : List String}
    (h : flagWords set behind = flagWords other behind) : set = other := by
  cases set with
  | false => cases other with
    | false => rfl
    | true => cases h
  | true => cases other with
    | false => cases h
    | true => rfl

theorem length_of_mem_flagWords {set other : Bool} {behind : List String} :
    ∀ x ∈ flagWords set behind, ∀ y ∈ flagWords other behind, x.length = y.length := by
  intro x hx y hy
  obtain ⟨-, hbehind⟩ := Option.ite_none_right_eq_some.mp hx
  obtain ⟨-, hother⟩ := Option.ite_none_right_eq_some.mp hy
  rw [← Option.some.inj hbehind, ← Option.some.inj hother]

/-- The text of the default of a column, if it has one. -/
def defaultText (c : Column) : Option String :=
  c.default.map Literal.display

/-- The check of a column, unless it is empty. -/
def checkText (c : Column) : Option String :=
  c.check.filter (· != "")

/-- The words behind the type of a column. -/
def constraintWords (c : Column) : List String :=
  clause "PRIMARY" (flagWords c.isPrimaryKey ["KEY"])
    ++ (clause "NOT" (flagWords c.isNotNull ["NULL"])
      ++ (clause "UNIQUE" (flagWords c.isUnique [])
        ++ (clause "DEFAULT" ((defaultText c).map words)
          ++ clause "CHECK" ((checkText c).map words))))

theorem flatMap_flag (set : Bool) {text first : String} {behind : List String}
    (h : words text = first :: behind) :
    (if set then [text] else []).flatMap words = clause first (flagWords set behind) := by
  cases set with
  | false => rfl
  | true => simp [h, clause, flagWords]

theorem flatMap_optional (first : String) (given : Option String) (h : ' ' ∉ first.toList) :
    (given.map (first ++ " " ++ ·)).toList.flatMap words = clause first (given.map words) := by
  cases given with
  | none => rfl
  | some text => simp [clause, Text.words_append, Text.words_of_notMem h]

theorem words_constraints (c : Column) : (constraints c).flatMap words = constraintWords c := by
  have hkey : words "PRIMARY KEY" = ["PRIMARY", "KEY"] := by decide
  have hnull : words "NOT NULL" = ["NOT", "NULL"] := by decide
  have hunique : words "UNIQUE" = ["UNIQUE"] := by decide
  have hdefault : (c.default.map fun value => "DEFAULT " ++ value.display).toList.flatMap words
      = clause "DEFAULT" ((defaultText c).map words) := by
    rw [← flatMap_optional "DEFAULT" _ (by decide), defaultText, Option.map_map]
    rfl
  have hcheck : ((checkText c).map fun check => "CHECK " ++ check).toList.flatMap words
      = clause "CHECK" ((checkText c).map words) :=
    flatMap_optional "CHECK" _ (by decide)
  unfold checkText at hcheck
  unfold constraints constraintWords checkText
  rw [List.flatMap_append, List.flatMap_append, List.flatMap_append, List.flatMap_append,
    flatMap_flag _ hkey, flatMap_flag _ hnull, flatMap_flag _ hunique, hdefault, hcheck,
    List.append_assoc, List.append_assoc, List.append_assoc]

theorem words_columnText (c : Column) :
    words (columnText c) = words c.name ++ (words (upper c.type) ++ constraintWords c) := by
  unfold columnText
  rw [Text.words_join (List.cons_ne_nil _ _), List.flatMap_cons, List.flatMap_cons,
    words_constraints]

/-! ### Reading a definition -/

/-- The constraints of a column begin with the first words of constraints, in their order. -/
theorem beginsIn_check (c : Column) :
    BeginsIn ["CHECK"] (clause "CHECK" ((checkText c).map words)) := by
  have hcheck := (beginsIn_nil []).clause_append "CHECK" ((checkText c).map words)
  rwa [List.append_nil] at hcheck

theorem beginsIn_constraintWords (c : Column) : BeginsIn clauseWords (constraintWords c) :=
  ((((beginsIn_check c).clause_append "DEFAULT" _).clause_append "UNIQUE" _).clause_append
    "NOT" _).clause_append "PRIMARY" _

end Script

/-- A column that can be told from its definition: only its type and its check have spaces, and no
word of its type becomes the first word of a constraint. -/
structure Column.Legible (c : Column) : Prop where
  name : ' ' ∉ c.name.toList
  type : ∀ word ∈ words c.type, upper word ∉ Script.clauseWords
  default : ∀ text ∈ Script.defaultText c, ' ' ∉ text.toList

theorem Column.Legible.upper_type {c : Column} (h : c.Legible) :
    ∀ word ∈ words (upper c.type), word ∉ Script.clauseWords := by
  intro word hword
  rw [Text.words_upper] at hword
  obtain ⟨lower, hlower, rfl⟩ := List.mem_map.mp hword
  exact h.type lower hlower

theorem Column.Legible.length_default {c : Column} (h : c.Legible) :
    ∀ x ∈ (Script.defaultText c).map words, x.length = 1 := by
  intro x hx
  obtain ⟨text, htext, rfl⟩ := Option.map_eq_some_iff.mp hx
  rw [Text.words_of_notMem (h.default text htext)]
  rfl

namespace Script

variable {c d : Column}

/-- The same words behind the types are the same constraints. -/
theorem constraintWords_inj (hc : c.Legible) (hd : d.Legible)
    (h : constraintWords c = constraintWords d) :
    c.isPrimaryKey = d.isPrimaryKey ∧ c.isNotNull = d.isNotNull ∧ c.isUnique = d.isUnique ∧
      defaultText c = defaultText d ∧ checkText c = checkText d := by
  have hcheck := beginsIn_check
  have hdefault (e : Column) := (hcheck e).clause_append "DEFAULT" ((defaultText e).map words)
  have hunique (e : Column) := (hdefault e).clause_append "UNIQUE" (flagWords e.isUnique [])
  have hnull (e : Column) := (hunique e).clause_append "NOT" (flagWords e.isNotNull ["NULL"])
  have hlength : ∀ x ∈ (defaultText c).map words, ∀ y ∈ (defaultText d).map words,
      x.length = y.length := fun x hx y hy =>
    (hc.length_default x hx).trans (hd.length_default y hy).symm
  unfold constraintWords at h
  obtain ⟨hkeyWords, h⟩ :=
    clause_append_inj (by decide) (hnull c) (hnull d) length_of_mem_flagWords h
  obtain ⟨hnullWords, h⟩ :=
    clause_append_inj (by decide) (hunique c) (hunique d) length_of_mem_flagWords h
  obtain ⟨huniqueWords, h⟩ :=
    clause_append_inj (by decide) (hdefault c) (hdefault d) length_of_mem_flagWords h
  obtain ⟨hdefaultWords, h⟩ := clause_append_inj (by decide) (hcheck c) (hcheck d) hlength h
  have hwords := Option.map_injective Text.words_injective
  exact ⟨flagWords_inj hkeyWords, flagWords_inj hnullWords, flagWords_inj huniqueWords,
    hwords hdefaultWords, hwords (clause_inj h)⟩

theorem column_eq_ok_iff {text : String} :
    column c = .ok text ↔ partFailure? c = none ∧ columnText c = text := by
  rw [column_eq, barring_eq_ok_iff]

/--
**A definition tells the column.**  Two columns that are written alike have the same name, the same
type in upper case, the same flags, the same default and the same check.  The words of the type may
be any but those that constraints begin with; the default may be one of those too, and the check any
text.
-/
theorem column_text_inj (hc : c.Legible) (hd : d.Legible) {text : String}
    (hctext : column c = .ok text) (hdtext : column d = .ok text) :
    c.name = d.name ∧ upper c.type = upper d.type ∧
      c.isPrimaryKey = d.isPrimaryKey ∧ c.isNotNull = d.isNotNull ∧ c.isUnique = d.isUnique ∧
      defaultText c = defaultText d ∧ checkText c = checkText d := by
  have hsame : columnText c = columnText d :=
    (column_eq_ok_iff.mp hctext).2.trans (column_eq_ok_iff.mp hdtext).2.symm
  have hwords : c.name :: (words (upper c.type) ++ constraintWords c)
      = d.name :: (words (upper d.type) ++ constraintWords d) := by
    have hsplit := congrArg words hsame
    rw [words_columnText, words_columnText, Text.words_of_notMem hc.name,
      Text.words_of_notMem hd.name, List.singleton_append, List.singleton_append] at hsplit
    exact hsplit
  obtain ⟨hname, hbehind⟩ := List.cons.inj hwords
  obtain ⟨htype, hconstraints⟩ := append_clauses_inj hc.upper_type hd.upper_type
    (beginsIn_constraintWords c) (beginsIn_constraintWords d) hbehind
  exact ⟨hname, Text.words_injective htype, constraintWords_inj hc hd hconstraints⟩

/-- A column whose default and check hold first words of constraints. -/
def guardedColumn : Column where
  name := "ratio"
  type := "double precision"
  nullable := some false
  default := some (.text "CHECK")
  check := some "(ratio > 0 AND ratio IS NOT NULL)"

/-- The column, given in other letters and with flags that are written down and not set. -/
def loudColumn : Column :=
  { guardedColumn with type := "Double PRECISION", primaryKey := some false, unique := some false }

/-- The definition of both. -/
def guardedText : String :=
  "ratio DOUBLE PRECISION NOT NULL DEFAULT CHECK CHECK (ratio > 0 AND ratio IS NOT NULL)"

theorem column_text_inj_guarded :
    guardedColumn.Legible ∧ loudColumn.Legible ∧ column guardedColumn = .ok guardedText ∧
      column loudColumn = .ok guardedText ∧ guardedColumn.isUnique = loudColumn.isUnique ∧
      defaultText guardedColumn = defaultText loudColumn := by
  have hguarded : guardedColumn.Legible := ⟨by decide, by decide, by decide⟩
  have hloud : loudColumn.Legible := ⟨by decide, by decide, by decide⟩
  have htext : column guardedColumn = .ok guardedText :=
    column_eq_ok_iff.mpr ⟨rfl, by decide +kernel⟩
  have hsame : column loudColumn = .ok guardedText :=
    column_eq_ok_iff.mpr ⟨rfl, by decide +kernel⟩
  obtain ⟨-, -, -, -, hunique, hdefault, -⟩ := column_text_inj hguarded hloud htext hsame
  exact ⟨hguarded, hloud, htext, hsame, hunique, hdefault⟩

end Script

end Tablewright
