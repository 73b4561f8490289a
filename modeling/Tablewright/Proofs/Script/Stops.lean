/-
Where the writing of a script stops, and what was warned of by then.

The types are written first, all of them, and then the tables one after the other;
comments come last.  A column that lacks its name or its type stops all of it.  So by
then every type has given its warning and the tables before have given theirs, while
the table of the column has none to give, since it has a column, and no comment was
looked at.

Nothing here is about drawings: a blueprint may be any list of tables, also one that
no model comes to.
-/
import Tablewright.Proofs.Warnings

namespace Tablewright.Script

/-- A column lacks its name or its type, and none before it does; `written` are the tables before
its own, and the failure is what it lacks. -/
def StopsBehind (b : Blueprint) (written : List Table) (failure : Failure) : Prop :=
  ∃ table after, b.tables = written ++ table :: after ∧
    (∀ other ∈ written, ∀ column ∈ other.columns, column.name ≠ "" ∧ column.type ≠ "") ∧
    First Column.Lacks table.columns failure

/-- The warnings on types without members, and on those of these tables that have no columns. -/
def warningsBehind (b : Blueprint) (written : List Table) : Log :=
  (b.types.filter (·.members.isEmpty)).map emptyTypeWarning
    ++ (written.filter (·.columns.isEmpty)).map emptyTableWarning

theorem kind_of_mem_warningsBehind {b : Blueprint} {written : List Table} {w : Warning}
    (h : w ∈ warningsBehind b written) : w.kind = .emptyEnum ∨ w.kind = .emptyColumns := by
  rcases List.mem_append.mp h with h | h
  · obtain ⟨type, -, rfl⟩ := List.mem_map.mp h
    exact Or.inl rfl
  · obtain ⟨table, -, rfl⟩ := List.mem_map.mp h
    exact Or.inr rfl

theorem blueprintFailure?_eq_some_iff {b : Blueprint} {failure : Failure} :
    blueprintFailure? b = some failure ↔ ∃ written, StopsBehind b written failure := by
  unfold blueprintFailure? StopsBehind
  rw [List.findSome?_eq_some_iff]
  refine exists_congr fun written => exists_congr fun table => exists_congr fun after => ?_
  refine and_congr_right fun _ => ?_
  rw [tableFailure?_eq_some_iff, and_comm]
  exact and_congr_left fun _ => forall₂_congr fun _ _ => tableFailure?_eq_none_iff

/-- The table of the column that stops the writing has no warning to give. -/
theorem StopsBehind.blueprintWarnings_eq {b : Blueprint} {written : List Table} {failure : Failure}
    (h : StopsBehind b written failure) : blueprintWarnings b = warningsBehind b written := by
  obtain ⟨table, after, htables, hwritten, hlacks⟩ := h
  have hnone : ∀ other ∈ written, tableFailure? other = none := fun other hother =>
    tableFailure?_eq_none_iff.mpr (hwritten other hother)
  have hstops : tableFailure? table = some failure := (tableFailure?_eq_some_iff _ _).mpr hlacks
  have hsilent : tableWarnings table = [] := by
    obtain ⟨front, column, back, hcolumns, -, -⟩ := hlacks
    exact if_neg (by simp [hcolumns])
  have hfailure : blueprintFailure? b = some failure :=
    blueprintFailure?_eq_some_iff.mpr ⟨written, table, after, htables, hwritten, hlacks⟩
  have htypes : b.types.flatMap typeWarnings
      = (b.types.filter (·.members.isEmpty)).map emptyTypeWarning :=
    Log.flatMap_eq_map_filter fun _ _ => rfl
  have htableWarnings : Log.upTo tableFailure? tableWarnings b.tables
      = (written.filter (·.columns.isEmpty)).map emptyTableWarning := by
    rw [htables, Log.upTo_append _ hnone, Log.upTo, hstops, Log.past_some, hsilent,
      List.append_nil, List.append_nil]
    exact Log.flatMap_eq_map_filter fun _ _ => rfl
  rw [blueprintWarnings, hfailure, Log.past_some, List.append_nil, htypes, htableWarnings]
  rfl

/--
**Writing stops at the first column that lacks its name or its type.**  The types and the tables
before it have given their warnings by then, and nothing else was warned of.
-/
theorem ofBlueprint_stops (schemaName : String) (b : Blueprint) (log : Log) :
    ((∃ failure rest, (ofBlueprint schemaName b).from log = (.error failure, rest)) ↔
      ∃ table ∈ b.tables, ∃ column ∈ table.columns, column.name = "" ∨ column.type = "") ∧
    (∀ failure rest, (ofBlueprint schemaName b).from log = (.error failure, rest) ↔
      ∃ written, StopsBehind b written failure ∧ rest = log ++ warningsBehind b written) ∧
    ∀ written, ∀ w ∈ warningsBehind b written, w.kind ≠ .blankComment := by
  have hrun := ofBlueprint_gives schemaName b log
  refine ⟨?_, ?_, ?_⟩
  · rw [hrun]
    simp only [Prod.mk.injEq, barring_eq_error_iff, exists_and_left, exists_eq', and_true]
    rw [← Option.ne_none_iff_exists', ne_eq, Model.partFailure?_eq_none_iff, Blueprint.Complete]
    simp only [not_forall, not_and_or, not_not, exists_prop]
  · intro failure rest
    rw [hrun, Prod.mk.injEq, barring_eq_error_iff, blueprintFailure?_eq_some_iff]
    constructor
    · rintro ⟨⟨written, hstops⟩, rfl⟩
      exact ⟨written, hstops, by rw [hstops.blueprintWarnings_eq]⟩
    · rintro ⟨written, hstops, rfl⟩
      exact ⟨⟨written, hstops⟩, by rw [hstops.blueprintWarnings_eq]⟩
  · intro written w hw
    rcases kind_of_mem_warningsBehind hw with hkind | hkind
    · simp [hkind]
    · simp [hkind]

/-- A table without columns is warned of before the writing stops, a blank comment is not. -/
example :
    (ofBlueprint "api" {
      tables := [⟨"api.bare", []⟩, ⟨"api.day", [.plain "id" "serial", .plain "date" ""]⟩]
      comments := [⟨.table, "api.day", " "⟩] }).from []
    = (.error (.missingColumnPart .type (some "date")), [emptyTableWarning ⟨"api.bare", []⟩]) :=
  rfl

end Tablewright.Script
