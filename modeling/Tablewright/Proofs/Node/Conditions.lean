/-
The conditions of a check, apart from their text.

A check is written down at once, but what it asks for is a list of limits, each of
them on the value of a number or on the length or the form of a text.  `Condition`
has one case for each, and the text of a check is put together from the texts of
its conditions.

Only the declared type decides which limits count.  A node whose type is one of the
two types of numbers is asked for its minimum and maximum, one whose type is that of
texts for its lengths and its pattern, and any other node for none; the kind of the
node plays no part.
-/
import Tablewright.Node.Check
import Tablewright.Proofs.Node.SqlType

namespace Tablewright

/-- A limit that a check asks a column to keep. -/
inductive Condition
  /-- No smaller than this, or greater when `strict`. -/
  | above (bound : Number) (strict : Bool)
  /-- No greater than this, or smaller when `strict`. -/
  | below (bound : Number) (strict : Bool)
  /-- No shorter than this. -/
  | longer (length : Nat)
  /-- No longer than this. -/
  | shorter (length : Nat)
  /-- Of this form. -/
  | formed (pattern : String)

namespace Condition

/-- The condition on a column, as a check writes it. -/
def text (column : String) : Condition → String
  | above bound strict => column ++ (if strict then " > " else " >= ") ++ bound.text
  | below bound strict => column ++ (if strict then " < " else " <= ") ++ bound.text
  | longer length => "char_length(" ++ column ++ ") >= " ++ toString length
  | shorter length => "char_length(" ++ column ++ ") <= " ++ toString length
  | formed pattern => Sql.quote pattern ++ " ~* " ++ column

/-- The condition compares a number. -/
inductive OnNumber : Condition → Prop
  | above (bound : Number) (strict : Bool) : OnNumber (.above bound strict)
  | below (bound : Number) (strict : Bool) : OnNumber (.below bound strict)

/-- The condition is about the length of a text or its form. -/
inductive OnText : Condition → Prop
  | longer (length : Nat) : OnText (.longer length)
  | shorter (length : Nat) : OnText (.shorter length)
  | formed (pattern : String) : OnText (.formed pattern)

end Condition

namespace Facets

/-- The limits on a number. -/
def onNumber (f : Facets) : List Condition :=
  (f.minimum.map (.above · f.exclusiveMinimum)).toList
    ++ (f.maximum.map (.below · f.exclusiveMaximum)).toList

/-- The limits on a text. -/
def onText (f : Facets) : List Condition :=
  (f.minLength.map .longer).toList ++ (f.maxLength.map .shorter).toList
    ++ (f.pattern.map .formed).toList

theorem numericConditions_eq (f : Facets) (column : String) :
    f.numericConditions column = f.onNumber.map (·.text column) := by
  unfold numericConditions onNumber
  rw [List.map_append, ← Option.toList_map, ← Option.toList_map, Option.map_map, Option.map_map]
  rfl

theorem textConditions_eq (f : Facets) (column : String) :
    f.textConditions column = f.onText.map (·.text column) := by
  unfold textConditions onText
  simp only [List.map_append, ← Option.toList_map, Option.map_map]
  rfl

theorem onNumber_of_mem {f : Facets} {c : Condition} (h : c ∈ f.onNumber) : c.OnNumber := by
  simp only [onNumber, List.mem_append, Option.mem_toList, Option.map_eq_some_iff] at h
  rcases h with ⟨bound, -, rfl⟩ | ⟨bound, -, rfl⟩
  · exact .above bound _
  · exact .below bound _

theorem onText_of_mem {f : Facets} {c : Condition} (h : c ∈ f.onText) : c.OnText := by
  simp only [onText, List.mem_append, Option.mem_toList, Option.map_eq_some_iff] at h
  rcases h with (⟨length, -, rfl⟩ | ⟨length, -, rfl⟩) | ⟨pattern, -, rfl⟩
  · exact .longer length
  · exact .shorter length
  · exact .formed pattern

end Facets

namespace Node

/-! ### The declared type -/

theorem isNumeric_iff {n : Node} :
    n.isNumeric = true ↔ n.traits.type = some "number" ∨ n.traits.type = some "integer" := by
  rw [isNumeric, Bool.or_eq_true, beq_iff_eq, beq_iff_eq, typeName, getD_type_eq_iff (by decide),
    getD_type_eq_iff (by decide)]

theorem isText_iff {n : Node} : n.isText = true ↔ n.traits.type = some "string" := by
  rw [isText, beq_iff_eq, typeName, getD_type_eq_iff (by decide)]

/-- No type is that of numbers and that of texts. -/
theorem isNumeric_eq_false_of_isText {n : Node} (h : n.isText = true) : n.isNumeric = false := by
  rw [Bool.eq_false_iff, ne_eq, isNumeric_iff, isText_iff.mp h]
  decide

/-! ### The check of a column -/

/-- The limits that count for a node. -/
def limits (n : Node) : List Condition :=
  if n.isNumeric then n.traits.facets.onNumber
  else if n.isText then n.traits.facets.onText
  else []

theorem conditions_eq (n : Node) (column : String) :
    n.conditions column = n.limits.map (·.text column) := by
  unfold conditions limits
  rw [Facets.numericConditions_eq, Facets.textConditions_eq]
  split
  · rfl
  · split
    · rfl
    · rfl

theorem check?_eq_none_iff {n : Node} {column : String} :
    n.check? column = none ↔ n.limits = [] := by
  unfold check?
  rw [conditions_eq]
  cases n.limits with
  | nil => simp
  | cons first rest => simp

/-- **A check joins the texts of its conditions.** -/
theorem check?_eq_some_iff {n : Node} {column expression : String} :
    n.check? column = some expression ↔
      n.limits ≠ [] ∧ Text.join " AND " (n.limits.map (·.text column)) = expression := by
  unfold check?
  rw [conditions_eq]
  cases n.limits with
  | nil => simp
  | cons first rest => simp

end Node

end Tablewright
