/-
How the statements of a script are spaced.

A script is a list of statements with blanks between them: the line ends that
paragraphs are set apart with, and the indented lines of a table belong to the
statement.  `Spaced` is that relation of a list of statements and a text.  Texts
one after the other hold their statements one after the other, so the relation
passes through every way a script is put together.

What is spaced is read back by cutting at semicolons and trimming, as long as no
statement has a semicolon of its own outside quotes.
-/
import Tablewright.Proofs.Script
import Tablewright.Proofs.Sql.Statement
import Tablewright.Proofs.Text.Blank

namespace Tablewright.Script

/-- The text holds these statements, with their semicolons and with blanks between them. -/
inductive Spaced : List Statement → String → Prop
  | blank {gap : String} (h : Text.isBlank gap = true) : Spaced [] gap
  | statement {gap tail : String} {later : List Statement} (s : Statement)
      (h : Text.isBlank gap = true) (htail : Spaced later tail) :
      Spaced (s :: later) (gap ++ s.written ++ tail)

namespace Spaced

variable {l k : List Statement} {a b : String}

theorem gap_append {gap : String} (h : Text.isBlank gap = true) (hb : Spaced l b) :
    Spaced l (gap ++ b) := by
  cases hb with
  | blank hblank => exact .blank (by rw [Text.isBlank_append, h, hblank]; rfl)
  | statement s hfront htail =>
      rw [← String.append_assoc, ← String.append_assoc]
      exact .statement s (by rw [Text.isBlank_append, h, hfront]; rfl) htail

theorem append (ha : Spaced l a) (hb : Spaced k b) : Spaced (l ++ k) (a ++ b) := by
  induction ha with
  | blank h => exact hb.gap_append h
  | statement s h _ ih =>
      rw [String.append_assoc]
      exact .statement s h ih

/-- One statement, with blanks on both sides. -/
theorem single (s : Statement) {front back : String} (hfront : Text.isBlank front = true)
    (hback : Text.isBlank back = true) : Spaced [s] (front ++ s.written ++ back) :=
  .statement s hfront (.blank hback)

/-- A text with a statement in front begins with a gap and this statement. -/
theorem exists_cons {s : Statement} (h : Spaced (s :: l) a) :
    ∃ gap tail, a = gap ++ s.written ++ tail ∧ Text.isBlank gap = true ∧ Spaced l tail := by
  cases h with
  | statement _ hgap htail => exact ⟨_, _, rfl, hgap, htail⟩

/-- A text that holds statements one after the other can be cut between any two of them. -/
theorem split (h : Spaced (l ++ k) a) :
    ∃ front back, a = front ++ back ∧ Spaced l front ∧ Spaced k back := by
  induction l generalizing a with
  | nil => exact ⟨"", a, String.empty_append.symm, .blank rfl, h⟩
  | cons s later ih =>
      obtain ⟨gap, tail, rfl, hgap, htail⟩ := exists_cons h
      obtain ⟨front, back, rfl, hfront, hback⟩ := ih htail
      refine ⟨gap ++ s.written ++ front, back, ?_, .statement s hgap hfront, hback⟩
      rw [String.append_assoc, String.append_assoc, String.append_assoc]

end Spaced

/-! ### Paragraphs -/

/-- The texts hold these statements, each text the next few. -/
inductive Paragraphs : List Statement → List String → Prop
  | nil : Paragraphs [] []
  | cons {l k : List Statement} {text : String} {texts : List String} (h : Spaced l text)
      (hrest : Paragraphs k texts) : Paragraphs (l ++ k) (text :: texts)

namespace Paragraphs

variable {l k : List Statement} {a b : List String}

theorem append (ha : Paragraphs l a) (hb : Paragraphs k b) : Paragraphs (l ++ k) (a ++ b) := by
  induction ha with
  | nil => exact hb
  | cons h _ ih =>
      rw [List.append_assoc, List.cons_append]
      exact .cons h ih

theorem join {separator : String} (hblank : Text.isBlank separator = true)
    (h : Paragraphs l a) : Spaced l (Text.join separator a) := by
  induction h with
  | nil => exact .blank rfl
  | @cons l k text texts htext hrest ih =>
      cases texts with
      | nil =>
          cases hrest
          rw [List.append_nil]
          exact htext
      | cons next rest =>
          have hfront := htext.append (.blank hblank)
          rw [List.append_nil] at hfront
          exact hfront.append ih

/-- Every statement may be a paragraph of its own. -/
theorem written (l : List Statement) : Paragraphs l (l.map Statement.written) := by
  induction l with
  | nil => exact .nil
  | cons s rest ih =>
      have hnothing : Text.isBlank "" = true := rfl
      have hs := Spaced.single s hnothing hnothing
      rw [String.append_empty, String.empty_append] at hs
      exact .cons hs ih

/-- Statements of one kind are one paragraph, or none where there are no statements. -/
theorem paragraph {separator : String} (hblank : Text.isBlank separator = true)
    (l : List Statement) :
    Paragraphs l (Script.paragraph separator (l.map Statement.written)) := by
  cases l with
  | nil => exact .nil
  | cons s rest =>
      have hall := Paragraphs.cons ((written (s :: rest)).join hblank) .nil
      rw [List.append_nil] at hall
      exact hall

end Paragraphs

/-- **A script holds the statements of its plan.** -/
theorem text_spaced (schemaName : String) (b : Blueprint) :
    Spaced (plan schemaName b) (text schemaName b) := by
  have hline : Text.isBlank "\n" = true := by decide
  have hlines : Text.isBlank "\n\n" = true := by decide
  have hschema : Paragraphs [.createSchema schemaName] _ := .written [.createSchema schemaName]
  have htypes := Paragraphs.paragraph hlines (b.types.map .createType)
  have htables := Paragraphs.paragraph hlines (b.tables.map .createTable)
  have hcomments := Paragraphs.paragraph hline (b.comments.map .setComment)
  have hbody := (hschema.append ((htypes.append htables).append hcomments)).join hlines
  have hall := ((Spaced.single .opening hline hlines).append hbody).append
    (Spaced.single .closing hlines hline)
  have hplan : plan schemaName b = [.opening] ++ ([.createSchema schemaName]
      ++ (b.types.map .createType ++ b.tables.map .createTable ++ b.comments.map .setComment))
      ++ [.closing] := by
    simp [plan]
  have hopening : "\nBEGIN;\n\n" = "\n" ++ Statement.opening.written ++ "\n\n" := by decide
  have hclosing : "\n\nCOMMIT;\n" = "\n\n" ++ Statement.closing.written ++ "\n" := by decide
  simp only [List.map_map] at hall
  unfold text assemble
  rw [hplan, hopening, hclosing]
  exact hall

/-! ### Reading statements back -/

/-- White space is balanced: quotes and semicolons are none. -/
theorem balanced_of_isBlank {gap : String} (h : Text.isBlank gap = true) : Sql.Balanced gap := by
  apply Sql.balanced_of_plain
  intro c hc
  have hblank := List.all_eq_true.mp h c hc
  constructor
  · rintro rfl
    exact absurd hblank (by decide)
  · rintro rfl
    exact absurd hblank (by decide)

/-- A statement begins with its first keyword. -/
theorem Statement.begins (s : Statement) : Text.Begins s.text := by
  have hcreate : ∀ rest, Text.Begins (String.ofList ('C' :: rest)) :=
    fun rest => ⟨'C', rest, String.toList_ofList, by decide⟩
  cases s with
  | opening => exact ⟨'B', _, rfl, by decide⟩
  | createSchema name => exact ((hcreate _).append name).append _
  | createType t => exact ((((hcreate _).append _).append _).append _).append _
  | createTable t =>
      show Text.Begins (if _ then _ else _)
      split
      · exact ((hcreate _).append _).append _
      · exact ((((hcreate _).append _).append _).append _).append _
  | setComment c => exact ((((((hcreate _).append _).append _).append _).append _).append _)
  | closing => exact hcreate _

/-- A statement ends with a keyword, a parenthesis or a quote. -/
theorem Statement.ends (s : Statement) : Text.Ends s.text := by
  have hparenthesis : Text.Ends ")" := ⟨[], ')', rfl, by decide⟩
  cases s with
  | opening => exact ⟨"BEGI".toList, 'N', rfl, by decide⟩
  | createSchema name => exact .append _ ⟨" IF NOT EXIST".toList, 'S', rfl, by decide⟩
  | createType t => exact .append _ hparenthesis
  | createTable t =>
      show Text.Ends (if _ then _ else _)
      split
      · exact .append _ ⟨" IF NOT EXISTS (".toList, ')', rfl, by decide⟩
      · exact .append _ ⟨"\n".toList, ')', rfl, by decide⟩
  | setComment c =>
      refine .append _ ⟨'\'' :: Sql.doubled c.content.toList, '\'', ?_, by decide⟩
      rw [Sql.quote, String.toList_ofList, List.cons_append]
  | closing => exact ⟨"COMMI".toList, 'T', rfl, by decide⟩

/-- **What is spaced is cut into its statements again.** -/
theorem Spaced.statements {l : List Statement} {a : String} (h : Spaced l a)
    (hbalanced : ∀ s ∈ l, Sql.Balanced s.text) :
    (Sql.statements a).map Text.trim = l.map Statement.text ++ [""] := by
  induction h with
  | blank h =>
      rw [Sql.statements_of_balanced (balanced_of_isBlank h), List.map_singleton,
        Text.trim_of_isBlank h]
      rfl
  | @statement gap tail later s h _ ih =>
      have hs : Sql.Balanced (gap ++ s.text) :=
        (balanced_of_isBlank h).append (hbalanced s (by simp))
      have hcut : gap ++ s.written ++ tail = gap ++ s.text ++ ";" ++ tail := by
        rw [Statement.written, ← String.append_assoc]
      have hlater := ih (fun t ht => hbalanced t (by simp [ht]))
      rw [hcut, Sql.statements_append hs, List.map_cons, List.map_cons, hlater, List.cons_append,
        Text.trim_append h s.begins s.ends]

end Tablewright.Script
