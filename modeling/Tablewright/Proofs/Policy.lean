/-
Policies that were written read back.

A policy is a flag, a text, a map or a list, and each of these is one kind of
policy; so the kind is told by the value, and the columns of a policy are told from
one another by theirs.  What is read from the text of a policy is therefore the
policy, and no two policies have the same text.
-/
import Tablewright.Policy.Columns
import Tablewright.Proofs.Column
import Tablewright.Proofs.Json.Reader

namespace Tablewright.Policy

open Document

/-- No default of a column that the user gave is a double. -/
def WholeDefaults (p : Policy) : Prop :=
  ∀ c ∈ p.given, c.WholeDefault

theorem plain_toValue {p : Policy} (h : p.WholeDefaults) : p.toValue.Plain 2 := by
  cases p with
  | disabled => exact .scalar (.flag false)
  | enabled => exact .scalar (.flag true)
  | tagged tag => exact .scalar (.text tag)
  | column c => exact Column.plain_toValue (h c (by simp [given])) 1
  | columns cs =>
      refine .list fun item hitem => ?_
      obtain ⟨c, hc, rfl⟩ := List.mem_map.mp hitem
      exact Column.plain_toValue (h c hc) 0

theorem columnOfValue?_toValue (c : Column) : columnOfValue? c.toValue = some c := by
  have hmap : c.toValue.isMap = true := rfl
  unfold columnOfValue?
  rw [hmap, Column.read_toValue]
  rfl

theorem mapM_columnOfValue? (cs : List Column) :
    (cs.map Column.toValue).mapM columnOfValue? = some cs := by
  induction cs with
  | nil => rfl
  | cons c rest ih =>
      rw [List.map_cons, List.mapM_cons, columnOfValue?_toValue, ih]
      rfl

/-- The kind of a policy and its columns are told by its value. -/
theorem ofValue?_toValue (p : Policy) : ofValue? p.toValue = some p := by
  cases p with
  | disabled => rfl
  | enabled => rfl
  | tagged tag => rfl
  | column c =>
      have hcolumn : ofValue? c.toValue = (columnOfValue? c.toValue).map column := rfl
      rw [toValue, hcolumn, columnOfValue?_toValue]
      rfl
  | columns cs =>
      rw [toValue, ofValue?, mapM_columnOfValue?]
      rfl

theorem read_toValue {p : Policy} (h : p.WholeDefaults) : Policy.read p.toValue.toTree = .ok p := by
  unfold read Tree.choose
  rw [(plain_toValue h).isJson.value_toTree, ok_bind, ofValue?_toValue]
  rfl

/-- **A policy is read from the text it is written as.** -/
theorem read_text {p : Policy} (h : p.WholeDefaults) :
    Json.readText read (Json.text p.toValue) = .ok p := by
  unfold Json.readText
  rw [Json.parse_text (plain_toValue h) (by decide)]
  dsimp only
  rw [read_toValue h]
  rfl

/-- Whole numbers come back as they are, and so does every text; so a policy is told by its text. -/
theorem text_inj {p q : Policy} (hp : p.WholeDefaults) (hq : q.WholeDefaults)
    (h : Json.text p.toValue = Json.text q.toValue) : p = q := by
  have hread := read_text hp
  rw [h, read_text hq] at hread
  exact (Except.ok.inj hread).symm

/-- **Writing a policy loses nothing.**  What is read from its text is the policy, so different
policies have different texts. -/
theorem text_faithful {p : Policy} (h : p.WholeDefaults) :
    Json.readText read (Json.text p.toValue) = .ok p ∧
      ∀ q : Policy, q.WholeDefaults → q ≠ p → Json.text q.toValue ≠ Json.text p.toValue :=
  ⟨read_text h, fun _ hq hne htext => hne (text_inj hq h htext)⟩

/-- Two columns, one with every kind of constraint and one with nothing set. -/
def elaborate : Policy :=
  .columns [{ name := "a\"b", type := "text\n", nullable := some false, unique := some true
              default := some (.number (.whole (-5) (by decide))), check := some "é > '\x01'" }, {}]

theorem elaborate_wholeDefaults : elaborate.WholeDefaults := by
  unfold WholeDefaults Column.WholeDefault elaborate given
  simp

theorem text_faithful_elaborate :
    elaborate.WholeDefaults ∧ Json.readText read (Json.text elaborate.toValue) = .ok elaborate ∧
      enabled.WholeDefaults ∧ Json.text enabled.toValue ≠ Json.text elaborate.toValue := by
  have henabled : enabled.WholeDefaults := by
    simp [WholeDefaults, given]
  obtain ⟨hread, hdistinct⟩ := text_faithful elaborate_wholeDefaults
  exact ⟨elaborate_wholeDefaults, hread, henabled, hdistinct enabled henabled (by decide)⟩

end Tablewright.Policy
