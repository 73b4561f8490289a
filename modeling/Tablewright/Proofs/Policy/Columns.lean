/-
The columns of a policy.

A pair of columns is chosen without failing: by a tag that names one of the two,
or both, or those that the user gave.  Only a tag that names neither warns.

What a policy comes to is also described apart from the functions: `Supplies` has
one rule for each way to write a policy, the same ones for every group of
structural columns.  A group adds its built-in columns and its reading of a tag.
-/
import Tablewright.Policy.Columns
import Tablewright.Proofs.Checked

namespace Tablewright.Policy

/-- The columns that a policy takes of a pair. -/
def chosen (policy : Policy) (pair : List Column) : List Column :=
  match policy with
  | enabled => pair
  | tagged name => ((pair.find? (·.name == name)).map fun named => [named]).getD pair
  | policy => policy.given

/-- The warning that a tag gives when it names neither column of a pair. -/
def pairWarnings (policy : Policy) (pair : List Column) (title : String) (table : TableAddress) :
    Log :=
  match policy with
  | tagged name =>
    if (pair.find? (·.name == name)).isSome then []
    else [⟨.unknownStructuralColumn, table.name,
      "Unknown " ++ title ++ " column '" ++ name ++ "', expected one of "
        ++ Text.join ", " (pair.map (·.name)) ++ "; adding both"⟩]
  | _ => []

theorem pairColumns_gives (policy : Policy) (pair : List Column) (title : String)
    (table : TableAddress) :
    Warned.Gives (policy.pairColumns pair title table) (policy.chosen pair)
      (policy.pairWarnings pair title table) := by
  cases policy with
  | disabled => exact Warned.gives_pure []
  | enabled => exact Warned.gives_pure pair
  | tagged name =>
      unfold pairColumns chosen pairWarnings
      cases hfind : pair.find? (·.name == name) with
      | some named => simpa [hfind] using Warned.gives_pure [named]
      | none =>
          simp only [hfind, Option.map_none, Option.getD_none, Option.isSome_none,
            Bool.false_eq_true, if_false]
          exact Warned.gives_bind (Warned.gives_warn _ _ _) (Warned.gives_pure pair)
  | column c => exact Warned.gives_pure [c]
  | columns cs => exact Warned.gives_pure cs

/-! ### What a policy supplies -/

/-- The columns that a policy supplies to a group with these built-in ones; `OfTag` says what the
group makes of a tag. -/
inductive Supplies (builtIn : List Column) (OfTag : String → List Column → Prop) :
    Policy → List Column → Prop
  | disabled : Supplies builtIn OfTag .disabled []
  | enabled : Supplies builtIn OfTag .enabled builtIn
  | tagged {tag : String} {supplied : List Column} (h : OfTag tag supplied) :
      Supplies builtIn OfTag (.tagged tag) supplied
  | column (c : Column) : Supplies builtIn OfTag (.column c) [c]
  | columns (cs : List Column) : Supplies builtIn OfTag (.columns cs) cs

/-- The key, of this type. -/
def key (type : String) : Column :=
  { name := "id", type, primaryKey := some true }

/-- A timestamp of this name. -/
def stamp (name : String) : Column :=
  { name, type := "timestamp", nullable := some false, default := some (.text "CURRENT_TIMESTAMP") }

/-- An operator of this name. -/
def signature (name : String) : Column :=
  { name, type := "integer", nullable := some true, default := some (.text "-1") }

/-- The deletion mark, of this name. -/
def mark (name : String) : Column :=
  { name, type := "timestamp", nullable := some true }

/-- A tag names the type of the key. -/
def SuppliesKey : Policy → List Column → Prop :=
  Supplies [key "serial"] fun type supplied => supplied = [key type]

/-- A tag names the deletion mark. -/
def SuppliesMark : Policy → List Column → Prop :=
  Supplies [mark "delete_at"] fun name supplied => supplied = [mark name]

/-- What a tag makes of a pair: the column of this very name, or both columns where neither has
it. -/
inductive Picks (pair : List Column) (tag : String) : List Column → Prop
  | named {c : Column} (hc : c ∈ pair) (h : c.name = tag) : Picks pair tag [c]
  | neither (h : ∀ c ∈ pair, c.name ≠ tag) : Picks pair tag pair

/-- A tag picks a column of the pair. -/
def SuppliesPair (pair : List Column) : Policy → List Column → Prop :=
  Supplies pair (Picks pair)

theorem suppliesKey_idColumns (policy : Policy) : policy.SuppliesKey policy.idColumns := by
  cases policy with
  | disabled => exact .disabled
  | enabled => exact .enabled
  | tagged type => exact .tagged rfl
  | column c => exact .column c
  | columns cs => exact .columns cs

theorem suppliesMark_softDeleteColumns (policy : Policy) :
    policy.SuppliesMark policy.softDeleteColumns := by
  cases policy with
  | disabled => exact .disabled
  | enabled => exact .enabled
  | tagged name => exact .tagged rfl
  | column c => exact .column c
  | columns cs => exact .columns cs

theorem suppliesPair_chosen (policy : Policy) (pair : List Column) :
    SuppliesPair pair policy (policy.chosen pair) := by
  cases policy with
  | disabled => exact .disabled
  | enabled => exact .enabled
  | tagged tag =>
      have hpicked : Picks pair tag
          (((pair.find? (·.name == tag)).map fun named => [named]).getD pair) := by
        cases hfind : pair.find? (·.name == tag) with
        | some named =>
            have hname : named.name = tag := by simpa using List.find?_some hfind
            exact .named (List.mem_of_find?_eq_some hfind) hname
        | none => exact .neither (by simpa using hfind)
      exact .tagged hpicked
  | column c => exact .column c
  | columns cs => exact .columns cs

/-! ### The columns of each group -/

section

variable {policy : Policy} {column : Column}

theorem mem_idColumns_iff :
    column ∈ policy.idColumns ↔ (policy = .enabled ∧ column = key "serial") ∨
      (∃ type, policy = .tagged type ∧ column = key type) ∨ column ∈ policy.given := by
  cases policy <;> simp [idColumns, given, key, Column.plain, Column.asPrimaryKey]

theorem mem_softDeleteColumns_iff :
    column ∈ policy.softDeleteColumns ↔ (policy = .enabled ∧ column = mark "delete_at") ∨
      (∃ name, policy = .tagged name ∧ column = mark name) ∨ column ∈ policy.given := by
  cases policy <;> simp [softDeleteColumns, given, mark, Column.plain, Column.withNullable]

theorem mem_chosen_of_mem_given {pair : List Column} (h : column ∈ policy.given) :
    column ∈ policy.chosen pair := by
  cases policy with
  | column c => exact h
  | columns cs => exact h
  | _ => exact absurd h (by simp [given])

theorem mem_of_mem_chosen {pair : List Column} (h : column ∈ policy.chosen pair) :
    column ∈ pair ∨ column ∈ policy.given := by
  cases policy with
  | disabled => exact .inr h
  | enabled => exact .inl h
  | tagged tag =>
      refine .inl ?_
      rw [chosen] at h
      cases hfind : pair.find? (·.name == tag) with
      | none => simpa [hfind] using h
      | some named =>
          obtain rfl : column = named := by simpa [hfind] using h
          exact List.mem_of_find?_eq_some hfind
  | column c => exact .inr h
  | columns cs => exact .inr h

end

/-! ### Tags that name nothing -/

/-- The tag of a policy, when it is none of these names. -/
def strayTag? (policy : Policy) (names : List String) : Option String :=
  match policy with
  | tagged tag => if tag ∈ names then none else some tag
  | _ => none

/-- The warning about such a tag; `title` is the word for the group. -/
def strayTagWarning (title table : String) (names : List String) (tag : String) : Warning :=
  ⟨.unknownStructuralColumn, table,
    "Unknown " ++ title ++ " column '" ++ tag ++ "', expected one of "
      ++ Text.join ", " names ++ "; adding both"⟩

theorem pairWarnings_eq (policy : Policy) (pair : List Column) (title : String)
    (table : TableAddress) :
    policy.pairWarnings pair title table
      = ((policy.strayTag? (pair.map (·.name))).map
          (strayTagWarning title table.name (pair.map (·.name)))).toList := by
  cases policy with
  | tagged tag =>
      have hfind : (pair.find? (·.name == tag)).isSome ↔ tag ∈ pair.map (·.name) := by
        simp
      by_cases hnames : tag ∈ pair.map (·.name)
      · have htag : (tagged tag).strayTag? (pair.map (·.name)) = none := if_pos hnames
        rw [htag]
        exact if_pos (hfind.mpr hnames)
      · have htag : (tagged tag).strayTag? (pair.map (·.name)) = some tag := if_neg hnames
        rw [htag]
        exact if_neg (mt hfind.mp hnames)
  | _ => rfl

end Tablewright.Policy
