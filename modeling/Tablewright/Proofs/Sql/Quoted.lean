/-
String constants read back.

A constant is a quote, then its inside, then a quote.  Inside, a quote never stands
alone: two of them denote one, and every other character denotes itself.  `Denotes`
and `IsConstant` say so, and mention neither the writer nor the reader.

The reader cannot tell at a quote whether the constant ends there; he has to look at
the next character, and that may lie behind the constant.  So reading is described
together with the text behind it, which must not begin with a quote.  Under this
condition the constants in front of it are read as what they denote, and nothing else
is read.  As a quote has no spelling but the doubled one, a value has one constant, and
that is the one `quote` writes.
-/
import Tablewright.Sql.Quoted

namespace Tablewright.Sql

/-! ### What a constant is -/

/-- What may stand between the quotes of a constant, and the value that it denotes. -/
inductive Denotes : List Char → List Char → Prop
  | nil : Denotes [] []
  | quote {inner value : List Char} (more : Denotes inner value) :
      Denotes ('\'' :: '\'' :: inner) ('\'' :: value)
  | char {c : Char} {inner value : List Char} (hc : c ≠ '\'') (more : Denotes inner value) :
      Denotes (c :: inner) (c :: value)

/-- A text is a string constant of this value. -/
def IsConstant (text value : String) : Prop :=
  ∃ inner, text.toList = '\'' :: (inner ++ ['\'']) ∧ Denotes inner value.toList

/-! ### The writer -/

theorem denotes_doubled (value : List Char) : Denotes (doubled value) value := by
  induction value with
  | nil => exact .nil
  | cons c rest ih =>
      rw [doubled]
      by_cases hc : c = '\''
      · rw [if_pos hc, hc]
        exact .quote ih
      · rw [if_neg hc]
        exact .char hc ih

theorem Denotes.eq_doubled {inner value : List Char} (h : Denotes inner value) :
    inner = doubled value := by
  induction h with
  | nil => rfl
  | quote _ ih => rw [doubled, if_pos rfl, ← ih]
  | char hc _ ih => rw [doubled, if_neg hc, ← ih]

/-- Nothing but the doubled text denotes a text. -/
theorem denotes_iff {inner value : List Char} : Denotes inner value ↔ inner = doubled value :=
  ⟨Denotes.eq_doubled, fun h => h ▸ denotes_doubled value⟩

theorem toList_quote (s : String) : (quote s).toList = '\'' :: (doubled s.toList ++ ['\'']) :=
  String.toList_ofList

/-- **A value has one constant**, the one that is written for it. -/
theorem isConstant_iff {text value : String} : IsConstant text value ↔ text = quote value := by
  rw [← String.toList_inj, toList_quote]
  simp only [IsConstant, denotes_iff, exists_eq_right]

/-! ### The reader -/

/-- A quote that no quote follows ends the constant. -/
theorem scanConstant_close {rest : List Char} (h : ∀ c ∈ rest.head?, c ≠ '\'') :
    scanConstant ('\'' :: rest) = some ([], rest) := by
  cases rest with
  | nil => rfl
  | cons c after =>
      have hc : c ≠ '\'' := h c rfl
      simp [scanConstant, hc]

theorem scanConstant_char {c : Char} (hc : c ≠ '\'') (rest : List Char) :
    scanConstant (c :: rest)
      = (scanConstant rest).map fun (value, after) => (c :: value, after) := by
  simp [scanConstant, hc]

/-- What denotes a value is read as that value, up to the quote that no quote follows. -/
theorem Denotes.scanConstant_append {inner value rest : List Char} (h : Denotes inner value)
    (hrest : ∀ c ∈ rest.head?, c ≠ '\'') :
    scanConstant (inner ++ '\'' :: rest) = some (value, rest) := by
  induction h with
  | nil => exact scanConstant_close hrest
  | @quote inner value _ ih =>
      show (scanConstant (inner ++ '\'' :: rest)).map _ = _
      rw [ih]
      rfl
  | char hc _ ih =>
      rw [List.cons_append, scanConstant_char hc, ih]
      rfl

/-- What is read denotes the value that it is read as, and the quote behind it ended it. -/
theorem denotes_of_scanConstant {cs value rest : List Char}
    (h : scanConstant cs = some (value, rest)) :
    (∃ inner, cs = inner ++ '\'' :: rest ∧ Denotes inner value)
      ∧ ∀ c ∈ rest.head?, c ≠ '\'' := by
  fun_induction scanConstant cs generalizing value with
  | case1 => cases h
  | case2 after ih =>
      obtain ⟨⟨read, left⟩, hread, hvalue⟩ := Option.map_eq_some_iff.mp h
      obtain ⟨rfl, rfl⟩ := Prod.mk.inj hvalue
      obtain ⟨⟨inner, rfl, hinner⟩, hrest⟩ := ih hread
      exact ⟨⟨_, rfl, .quote hinner⟩, hrest⟩
  | case3 after hnext =>
      obtain ⟨rfl, rfl⟩ := Prod.mk.inj (Option.some.inj h)
      refine ⟨⟨[], rfl, .nil⟩, ?_⟩
      -- A quote in front of what is left would have been read together with this one.
      intro c hc heq
      obtain ⟨behind, hbehind⟩ := List.head?_eq_some_iff.mp hc
      rw [heq] at hbehind
      exact hnext behind rfl hbehind
  | case4 c after hnext hc ih =>
      obtain ⟨⟨read, left⟩, hread, hvalue⟩ := Option.map_eq_some_iff.mp h
      obtain ⟨rfl, rfl⟩ := Prod.mk.inj hvalue
      obtain ⟨⟨inner, rfl, hinner⟩, hrest⟩ := ih hread
      exact ⟨⟨_, rfl, .char hc hinner⟩, hrest⟩

theorem scanConstant_eq_some_iff {cs value rest : List Char} :
    scanConstant cs = some (value, rest)
      ↔ cs = doubled value ++ '\'' :: rest ∧ ∀ c ∈ rest.head?, c ≠ '\'' := by
  constructor
  · intro h
    obtain ⟨⟨inner, hcs, hinner⟩, hrest⟩ := denotes_of_scanConstant h
    rw [hinner.eq_doubled] at hcs
    exact ⟨hcs, hrest⟩
  · rintro ⟨rfl, hrest⟩
    exact (denotes_doubled value).scanConstant_append hrest

/-- **The reader finds what was written and nothing else**: the constant of a value, with a text
behind it that begins with no quote. -/
theorem scan_eq_some_iff {cs value rest : List Char} :
    scan cs = some (value, rest)
      ↔ cs = '\'' :: (doubled value ++ '\'' :: rest) ∧ ∀ c ∈ rest.head?, c ≠ '\'' := by
  cases cs with
  | nil => simp [scan]
  | cons c after =>
      rw [scan]
      by_cases hc : c = '\''
      · rw [if_pos hc, scanConstant_eq_some_iff, hc, List.cons.injEq, eq_self, true_and]
      · rw [if_neg hc]
        simp [hc]

theorem toList_quote_append (s : String) (rest : List Char) :
    (quote s).toList ++ rest = '\'' :: (doubled s.toList ++ '\'' :: rest) := by
  rw [toList_quote, List.cons_append, List.append_assoc, List.singleton_append]

/-- **A text as a constant is read as the text**, unless a quote follows it. -/
theorem scan_quote (s : String) {rest : List Char} (h : ∀ c ∈ rest.head?, c ≠ '\'') :
    scan ((quote s).toList ++ rest) = some (s.toList, rest) :=
  scan_eq_some_iff.mpr ⟨toList_quote_append s rest, h⟩

/-! ### Both together -/

/-- A text is read in full exactly when it is a constant. -/
theorem scan_eq_some_nil_iff {text value : String} :
    scan text.toList = some (value.toList, []) ↔ IsConstant text value := by
  rw [scan_eq_some_iff, isConstant_iff, ← String.toList_inj, toList_quote]
  exact and_iff_left nofun

/--
**A constant is read as the text it was written for, and every constant was written so.**  In front
of another text it gives its own text and leaves the other, as long as the other begins with no
quote, and only then; and what is read in full is a constant of its value, of which there is one.
-/
theorem quote_readBack (s rest text : String) :
    (scan (quote s ++ rest).toList = some (s.toList, rest.toList)
        ↔ ∀ c ∈ rest.toList.head?, c ≠ '\'')
      ∧ (scan text.toList = some (s.toList, []) ↔ IsConstant text s)
      ∧ (IsConstant text s ↔ text = quote s) := by
  refine ⟨?_, scan_eq_some_nil_iff, isConstant_iff⟩
  rw [String.toList_append, scan_eq_some_iff]
  exact and_iff_right (toList_quote_append s _)

/-- Two constants with nothing between them are read as one. -/
example : scan (quote "a'" ++ quote "'").toList = some ("a'''".toList, []) := by decide

end Tablewright.Sql
