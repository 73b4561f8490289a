/-
Balanced texts, and where a script is cut.

A balanced text leaves a reader who counts quotes where it found him: outside,
with no semicolon passed there.  So balanced texts may be put one after the
other, and a script that is made of them with a semicolon behind each is cut at
those semicolons and nowhere else.

What is plain, with neither a quote nor a semicolon, is balanced; so is a text as
a string constant, whatever it holds, because its quotes come in pairs.
-/
import Tablewright.Sql.Quoted
import Tablewright.Sql.Statement
import Tablewright.Text.Join

namespace Tablewright.Sql

/-! ### Texts one after the other -/

/-- Behind a balanced text the reading goes on outside quotes. -/
theorem balancedFrom_append {quoted : Bool} {a : List Char} (b : List Char)
    (ha : balancedFrom quoted a = true) : balancedFrom quoted (a ++ b) = balancedFrom false b := by
  induction a generalizing quoted with
  | nil =>
      have hout : quoted = false := by simpa [balancedFrom] using ha
      rw [hout, List.nil_append]
  | cons c rest ih =>
      rw [List.cons_append, balancedFrom]
      rw [balancedFrom] at ha
      split at ha
      · rename_i hc
        rw [if_pos hc, ih ha]
      · rename_i hc
        obtain ⟨hout, hrest⟩ := Bool.and_eq_true_iff.mp ha
        rw [if_neg hc, hout, ih hrest, Bool.true_and]

theorem splitStatements_ne_nil (quoted : Bool) (chars : List Char) :
    splitStatements quoted chars ≠ [] := by
  cases chars with
  | nil => simp [splitStatements]
  | cons c rest =>
      rw [splitStatements]
      split
      · simp
      · split <;> simp

/-- A balanced text in front becomes the beginning of the first statement. -/
theorem splitStatements_append {quoted : Bool} {a : List Char} (b : List Char)
    (ha : balancedFrom quoted a = true) :
    splitStatements quoted (a ++ b) = (splitStatements false b).modifyHead (a ++ ·) := by
  obtain ⟨first, others, hb⟩ := List.exists_cons_of_ne_nil (splitStatements_ne_nil false b)
  rw [hb, List.modifyHead_cons]
  induction a generalizing quoted with
  | nil =>
      have hout : quoted = false := by simpa [balancedFrom] using ha
      rw [hout, List.nil_append, hb]
      rfl
  | cons c rest ih =>
      rw [List.cons_append, splitStatements]
      rw [balancedFrom] at ha
      split at ha
      · rename_i hc
        rw [hc, if_neg (by simp), if_pos rfl, ih ha]
        rfl
      · rename_i hc
        obtain ⟨hout, hrest⟩ := Bool.and_eq_true_iff.mp ha
        rw [if_neg (by cases quoted <;> simp_all), if_neg hc, ih hrest]
        rfl

/-- A balanced text is one statement that nothing ends. -/
theorem statements_of_balanced {s : String} (hs : Balanced s) : statements s = [s] := by
  have hsplit := splitStatements_append [] hs
  rw [List.append_nil] at hsplit
  rw [statements, hsplit]
  simp [splitStatements]

/-- **A balanced text is ended by the semicolon behind it, and by no other.** -/
theorem statements_append {s : String} (hs : Balanced s) (t : String) :
    statements (s ++ ";" ++ t) = s :: statements t := by
  have hchars : (s ++ ";" ++ t).toList = s.toList ++ ';' :: t.toList := by
    rw [String.toList_append, String.toList_append, List.append_assoc]
    rfl
  have hcut : splitStatements false (';' :: t.toList) = [] :: splitStatements false t.toList :=
    if_pos rfl
  rw [statements, hchars, splitStatements_append _ hs, hcut]
  simp [statements]

/-! ### Plain texts -/

/-- Without a quote and without a semicolon. -/
def Plain (chars : List Char) : Prop :=
  ∀ c ∈ chars, c ≠ '\'' ∧ c ≠ ';'

/-- Plain characters are passed without notice. -/
theorem balancedFrom_plain {chars : List Char} (h : Plain chars) (quoted : Bool) (b : List Char) :
    balancedFrom quoted (chars ++ b) = balancedFrom quoted b := by
  induction chars with
  | nil => rfl
  | cons c rest ih =>
      obtain ⟨hquote, hsemicolon⟩ := h c (by simp)
      rw [List.cons_append, balancedFrom, if_neg hquote,
        ih (fun d hd => h d (List.mem_cons_of_mem c hd))]
      simp [hsemicolon]

/-- What is plain is balanced. -/
theorem balanced_of_plain {s : String} (h : Plain s.toList) : Balanced s := by
  have hplain := balancedFrom_plain h false []
  rw [List.append_nil] at hplain
  exact hplain

/-! ### Putting texts together -/

theorem Balanced.append {s t : String} (hs : Balanced s) (ht : Balanced t) :
    Balanced (s ++ t) := by
  unfold Balanced
  rw [String.toList_append, balancedFrom_append _ hs]
  exact ht

theorem balanced_join {separator : String} (hseparator : Balanced separator) :
    ∀ {texts : List String}, (∀ text ∈ texts, Balanced text) →
      Balanced (Text.join separator texts) := by
  intro texts
  induction texts with
  | nil => intro _; show Balanced ""; decide
  | cons text rest ih =>
      intro hall
      have htext := hall text (by simp)
      have hrest := ih (fun other hother => hall other (by simp [hother]))
      cases rest with
      | nil => exact htext
      | cons next rest => exact (htext.append hseparator).append hrest

/-! ### String constants -/

/-- Inside a constant, doubling leaves the reader inside. -/
theorem balancedFrom_doubled (chars rest : List Char) :
    balancedFrom true (doubled chars ++ rest) = balancedFrom true rest := by
  induction chars with
  | nil => rfl
  | cons c chars ih =>
      rw [doubled]
      split
      · rename_i hc
        simp [balancedFrom, ih]
      · rename_i hc
        simp [balancedFrom, hc, ih]

/-- **Every text is balanced as a constant.** -/
theorem balanced_quote (s : String) : Balanced (quote s) := by
  unfold Balanced quote
  rw [String.toList_ofList, balancedFrom, if_pos rfl]
  show balancedFrom true (doubled s.toList ++ ['\'']) = true
  rw [balancedFrom_doubled]
  rfl

end Tablewright.Sql
