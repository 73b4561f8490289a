/-
Where a check applies to the type of its column.

The type of a column and its check come from one node in two ways: the type from the
kind of the node and its format, the check from the declared type and the limits
beside it.  A check is meant for the declared type, so it applies to the type of the
column where that type is one of the same sort, and only there.

A number always stays one, and so does a reference of such a type, whose column is a
number; an enumeration never does.  A text keeps to its sort in the formats that only
say how long it may be.  A text that is a date, an address or an identifier does not,
although its length is checked all the same.
-/
import Tablewright.Proofs.Node.Conditions
import Tablewright.Proofs.Node.TypeTable
import Tablewright.Proofs.Text.Digits

namespace Tablewright

/-! ### Types of numbers and of texts -/

/-- The types of numbers. -/
def numericTypes : List String :=
  ["integer", "smallint", "bigint", "serial", "smallserial", "bigserial", "real",
    "double precision", "decimal", "numeric"]

/-- The types of texts, two of them with a length behind them or without. -/
inductive Textual : String → Prop
  | text : Textual "text"
  | character (length : Option Nat) : Textual (sized "character" length)
  | varying (length : Option Nat) : Textual (sized "character varying" length)

/-- Without the signs that stand in the name of an enumeration type and in the marks of lists. -/
def Unadorned (type : String) : Prop :=
  '.' ∉ type.toList ∧ ']' ∉ type.toList

instance (type : String) : Decidable (Unadorned type) :=
  inferInstanceAs (Decidable (_ ∧ _))

theorem unadorned_of_mem_numericTypes {type : String} (h : type ∈ numericTypes) :
    Unadorned type := by
  have hall : ∀ type ∈ numericTypes, Unadorned type := by decide
  exact hall type h

theorem Unadorned.sized {type : String} (h : Unadorned type) (length : Option Nat) :
    Unadorned (sized type length) := by
  have hdigits : ∀ {c : Char} (n : Nat), c.isDigit = false → c ∉ Nat.toDigits 10 n :=
    fun n hc hmem => Text.ne_of_isDigit (Text.isDigit_of_mem_decimal hmem) hc rfl
  cases length with
  | none => exact h
  | some n =>
      constructor
      · simp [Tablewright.sized, h.1, hdigits n (show '.'.isDigit = false by decide)]
      · simp [Tablewright.sized, h.2, hdigits n (show ']'.isDigit = false by decide)]

theorem Textual.unadorned {type : String} (h : Textual type) : Unadorned type := by
  cases h with
  | text => decide
  | character length => exact Unadorned.sized (by decide) length
  | varying length => exact Unadorned.sized (by decide) length

/-- All types of texts but one begin with one word. -/
theorem Textual.eq_or_prefix {type : String} (h : Textual type) :
    type = "text" ∨ "character".toList <+: type.toList := by
  cases h with
  | text => exact .inl rfl
  | character length => exact .inr (prefix_sized _ length)
  | varying length =>
      exact .inr ((by decide : "character".toList <+: "character varying".toList).trans
        (prefix_sized _ length))

theorem not_textual_of_mem {type : String}
    (h : type ∈ ["date", "timestamp", "uuid", "cidr", "string", "serial"]) : ¬ Textual type := by
  have hall : ∀ type ∈ ["date", "timestamp", "uuid", "cidr", "string", "serial"],
      ¬ (type = "text" ∨ "character".toList <+: type.toList) := by decide
  exact fun htextual => hall type h htextual.eq_or_prefix

/-! ### Formats that keep the sort -/

theorem IsNumberType.mem_numericTypes {format : Option String} {type : String}
    (h : IsNumberType format type) : type ∈ numericTypes := by
  have hexact : ∀ format ∈ ["decimal", "numeric"], format ∈ numericTypes := by decide
  cases h with
  | exact h => exact hexact _ h
  | _ => decide

/-- The formats that leave a text a text. -/
def textualFormats : List String :=
  ["binary", "byte", "text", "character", "char", "character varying", "varchar"]

theorem IsTextType.textual_iff {format : String} {length : Option Nat} {type : String}
    (h : IsTextType (some format) length type) : Textual type ↔ format ∈ textualFormats := by
  have hkept : ∀ formats ∈ [["binary", "byte", "text"], ["character", "char"],
      ["character varying", "varchar"]], ∀ format ∈ formats, format ∈ textualFormats := by decide
  have hlost : ∀ format ∈ ["date", "date-time", "uuid", "ipv4", "ipv6"],
      format ∉ textualFormats := by decide
  have hknown : ∀ format ∈ textualFormats, format ∈ knownTextFormats := by decide
  cases h with
  | text _ h => exact iff_of_true .text (hkept _ (by simp) _ h)
  | character length h => exact iff_of_true (.character length) (hkept _ (by simp) _ h)
  | varying length h => exact iff_of_true (.varying length) (hkept _ (by simp) _ h)
  | cidr _ h =>
      exact iff_of_false (not_textual_of_mem (by decide)) (hlost _ (by simp_all))
  | unlisted _ h => exact iff_of_false (not_textual_of_mem (by decide)) (mt (hknown _) h)
  | _ => exact iff_of_false (not_textual_of_mem (by decide)) (hlost _ (by decide))

/-! ### Nodes that keep the sort -/

namespace Node

/-- A node that has numbers in its column when its declared type is that of numbers. -/
inductive Countable : Node → Prop
  | scalar (format : Option String) (traits : Traits) : Countable (.scalar format traits)
  | reference (target : String) (traits : Traits) : Countable (.reference target traits)
  | object (properties : List (String × Node)) (overrides : Overrides) {traits : Traits}
      (h : traits.type = some "integer") : Countable (.object properties overrides traits)

/-- A node that has texts in its column when its declared type is that of texts. -/
inductive Legible : Node → Prop
  | unset (traits : Traits) : Legible (.scalar none traits)
  | listed {format : String} (h : format ∈ textualFormats) (traits : Traits) :
      Legible (.scalar (some format) traits)

variable {address : ColumnAddress} {n : Node}

/-- An enumeration is named after its column, with a point in the name. -/
theorem point_mem_enumTypeName (address : ColumnAddress) : '.' ∈ address.enumTypeName.toList := by
  simp [ColumnAddress.enumTypeName]

theorem columnType_mem_numericTypes_iff (hnumeric : n.isNumeric = true)
    (hfailure : n.typeFailure? address = none) :
    n.columnType address ∈ numericTypes ↔ n.Countable := by
  cases n with
  | object properties overrides traits =>
      have htype : traits.type = some "number" ∨ traits.type = some "integer" :=
        isNumeric_iff.mp hnumeric
      rw [columnType_object]
      constructor
      · intro h
        rcases htype with htype | htype
        · rw [htype] at h
          exact absurd h (by decide)
        · exact .object _ _ htype
      · rintro ⟨⟩
        rename_i htype
        rw [htype]
        decide
  | list items traits =>
      refine iff_of_false (fun h => ?_) (by rintro ⟨⟩)
      exact (unadorned_of_mem_numericTypes h).2 (by simp)
  | bareList traits => exact absurd hfailure (by simp [typeFailure?, leaf, leafFailure?])
  | enumeration members traits =>
      refine iff_of_false (fun h => ?_) (by rintro ⟨⟩)
      rw [columnType_enumeration] at h
      exact (unadorned_of_mem_numericTypes h).1 (point_mem_enumTypeName address)
  | scalar format traits =>
      refine iff_of_true ?_ (.scalar format traits)
      have htype : traits.type = some "number" ∨ traits.type = some "integer" :=
        isNumeric_iff.mp hnumeric
      rw [columnType_scalar, scalarName_of_number htype]
      exact (isNumberType_iff.mpr rfl).mem_numericTypes
  | reference target traits =>
      refine iff_of_true ?_ (.reference target traits)
      rw [columnType_reference]
      decide

theorem textual_columnType_iff (htext : n.isText = true)
    (hfailure : n.typeFailure? address = none) :
    Textual (n.columnType address) ↔ n.Legible := by
  cases n with
  | object properties overrides traits =>
      have htype : traits.type = some "string" := isText_iff.mp htext
      refine iff_of_false ?_ (by rintro ⟨⟩)
      rw [columnType_object, htype]
      exact not_textual_of_mem (by decide)
  | list items traits =>
      refine iff_of_false (fun h => ?_) (by rintro ⟨⟩)
      exact h.unadorned.2 (by simp)
  | bareList traits => exact absurd hfailure (by simp [typeFailure?, leaf, leafFailure?])
  | enumeration members traits =>
      refine iff_of_false (fun h => ?_) (by rintro ⟨⟩)
      rw [columnType_enumeration] at h
      exact h.unadorned.1 (point_mem_enumTypeName address)
  | scalar format traits =>
      have htype : traits.type = some "string" := isText_iff.mp htext
      have hrow : IsTextType format traits.facets.maxLength (scalarName format traits) :=
        isTextType_iff.mpr (scalarName_of_text htype)
      rw [columnType_scalar]
      cases format with
      | none =>
          refine iff_of_true ?_ (.unset traits)
          rw [hrow.eq_textType, ← (IsTextType.unset _).eq_textType]
          exact .varying _
      | some format =>
          rw [hrow.textual_iff]
          constructor
          · exact fun h => .listed h traits
          · rintro ⟨⟩
            assumption
  | reference target traits =>
      refine iff_of_false ?_ (by rintro ⟨⟩)
      rw [columnType_reference]
      exact not_textual_of_mem (by decide)

/-- All limits that count are on numbers, or all of them on texts, as the declared type has it. -/
theorem limits_sort (h : n.limits ≠ []) :
    n.isNumeric = true ∧ (∀ c ∈ n.limits, c.OnNumber) ∨
      n.isText = true ∧ ∀ c ∈ n.limits, c.OnText := by
  unfold limits at h ⊢
  by_cases hnumeric : n.isNumeric = true
  · rw [if_pos hnumeric]
    exact .inl ⟨hnumeric, fun c hc => Facets.onNumber_of_mem hc⟩
  · rw [if_neg hnumeric] at h ⊢
    by_cases htext : n.isText = true
    · rw [if_pos htext]
      exact .inr ⟨htext, fun c hc => Facets.onText_of_mem hc⟩
    · rw [if_neg htext] at h
      exact absurd rfl h

/--
**A check on numbers applies to the type of its column exactly where the node keeps numbers, and one
on texts exactly where it keeps texts.**
-/
theorem check_applies_iff {column type expression : String} {log rest : Log}
    (typed : (n.sqlType address).from log = (.ok type, rest))
    (checked : n.check? column = some expression) :
    ∃ limits : List Condition, limits ≠ [] ∧
      expression = Text.join " AND " (limits.map (·.text column)) ∧
      ((∀ c ∈ limits, c.OnNumber) ∧ (type ∈ numericTypes ↔ n.Countable) ∨
        (∀ c ∈ limits, c.OnText) ∧ (Textual type ↔ n.Legible)) := by
  obtain ⟨hfailure, rfl⟩ := (n.sqlType_gives address).eq_of_from typed
  obtain ⟨hlimits, rfl⟩ := check?_eq_some_iff.mp checked
  refine ⟨n.limits, hlimits, rfl, ?_⟩
  rcases limits_sort hlimits with ⟨hnumeric, hsort⟩ | ⟨htext, hsort⟩
  · exact .inl ⟨hsort, columnType_mem_numericTypes_iff hnumeric hfailure⟩
  · exact .inr ⟨hsort, textual_columnType_iff htext hfailure⟩

/-- A code of eight letters at most, in a format that says so. -/
def code : Node :=
  .scalar (some "varchar")
    { type := some "string", facets := { minLength := some 2, maxLength := some 8 } }

theorem check_applies_iff_code : ∃ limits : List Condition,
    (code.sqlType ⟨"api", "item", "code"⟩).from [] = (.ok "character varying(8)", []) ∧
    code.check? "code" = some "char_length(code) >= 2 AND char_length(code) <= 8" ∧
    "char_length(code) >= 2 AND char_length(code) <= 8"
      = Text.join " AND " (limits.map (·.text "code")) ∧
    (∀ c ∈ limits, c.OnText) ∧ Textual "character varying(8)" := by
  have htyped : (code.sqlType ⟨"api", "item", "code"⟩).from []
      = (.ok "character varying(8)", []) := by rfl
  have hchecked : code.check? "code"
      = some "char_length(code) >= 2 AND char_length(code) <= 8" := by decide
  obtain ⟨limits, -, hexpression, ⟨-, hnumeric⟩ | ⟨hsort, htextual⟩⟩ :=
    check_applies_iff htyped hchecked
  · exact absurd (hnumeric.mpr (.scalar _ _)) (by decide)
  · exact ⟨limits, htyped, hchecked, hexpression, hsort, htextual.mpr (.listed (by decide) _)⟩

/-- A day whose text may not be empty. -/
def day : Node :=
  .scalar (some "date") { type := some "string", facets := { minLength := some 1 } }

/-- A level of an enumeration, which may not be negative. -/
def level : Node :=
  .enumeration [.number (.whole 1 (by decide))]
    { type := some "integer", facets := { minimum := some (.whole 0 (by decide)) } }

/-- The length of a date is checked, and the size of a member of an enumeration. -/
theorem check_misapplied :
    (day.sqlType ⟨"api", "event", "day"⟩).from [] = (.ok "date", []) ∧
    day.check? "day" = some "char_length(day) >= 1" ∧ ¬ Textual "date" ∧
    (level.sqlType ⟨"api", "event", "level"⟩).from [] = (.ok "api.event_level", []) ∧
    level.check? "level" = some "level >= 0" ∧ "api.event_level" ∉ numericTypes := by
  refine ⟨rfl, ?_, not_textual_of_mem (by decide), rfl, ?_, ?_⟩
  · decide
  · decide
  · decide

end Node

end Tablewright
