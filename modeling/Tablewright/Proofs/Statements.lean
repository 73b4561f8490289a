/-
The statements of a compiled model.

A script is cut at the semicolons outside quotes.  This gives the statements of
the plan, one for every part of the blueprint and none besides, as long as the
names and the expressions that a model hands over to be written as they stand are
balanced.  Descriptions, members of enumerations and patterns are under no
condition, because each of them stands in a constant.
-/
import Tablewright.Proofs.Compile
import Tablewright.Proofs.Model.Balance
import Tablewright.Proofs.Script.Spacing

namespace Tablewright

/--
**Cut at the semicolons outside quotes, the script of a balanced model gives the statements of its
plan, and blanks behind them.**
-/
theorem compile_statements {m : Model} {settings : Settings} {migration : Migration}
    (compiled : m.compile settings = .ok migration) (hsettings : settings.Balanced)
    (hm : m.Balanced) :
    (Sql.statements migration.sql).map Text.trim
      = (Script.plan settings.schema migration.blueprint).map Script.Statement.text ++ [""] := by
  rw [m.compile_eq settings] at compiled
  obtain ⟨-, rfl⟩ := barring_eq_ok_iff.mp compiled
  have hplan := Script.balanced_plan hsettings.schema (hm.outline hsettings)
  exact (Script.text_spaced settings.schema (m.outline settings)).statements hplan

/-- A model whose description, member and pattern would each end a statement outside quotes. -/
def hostile : Model :=
  Model.ofList [("note", .object
    [("body", .scalar none
        { type := some "string", description := some "it's; gone",
          facets := { pattern := some "';--" } }),
      ("state", .enumeration [.text "a';b"] { type := some "string" })] {} {})]

/-- Settings that add a key and checks. -/
def checking : Settings where
  timestamp := .disabled
  softDelete := .disabled
  checks := true

theorem balanced_checking : checking.Balanced := by
  have hgiven : ∀ p : Policy, p = .enabled ∨ p = .disabled → p.Balanced := by
    rintro p (rfl | rfl)
    · exact ⟨nofun, List.forall_mem_nil _⟩
    · exact ⟨nofun, List.forall_mem_nil _⟩
  exact ⟨by decide, hgiven _ (Or.inl rfl), hgiven _ (Or.inr rfl), hgiven _ (Or.inr rfl),
    hgiven _ (Or.inr rfl)⟩

theorem balanced_hostile : hostile.Balanced := by
  have hentities : hostile.entities = [("note", .object
    [("body", .scalar none
        { type := some "string", description := some "it's; gone",
          facets := { pattern := some "';--" } }),
      ("state", .enumeration [.text "a';b"] { type := some "string" })] {} {})] := by rfl
  have htype : ∀ s, some "string" = some s → Sql.Balanced s := by
    rintro s ⟨⟩
    decide
  constructor
  · rw [hentities, List.forall_mem_singleton]
    decide
  · rw [hentities, List.forall_mem_singleton, Node.overrides_object]
    constructor <;> simp
  · rw [hentities, List.forall_mem_singleton, Node.properties_object]
    decide
  · rw [hentities, List.forall_mem_singleton, Node.properties_object, List.forall_mem_cons,
      List.forall_mem_singleton]
    exact ⟨⟨htype, nofun⟩, ⟨htype, nofun⟩⟩

theorem compile_statements_hostile : ∃ migration, hostile.compile checking = .ok migration ∧
    (Sql.statements migration.sql).map Text.trim = [
      "BEGIN",
      "CREATE SCHEMA api IF NOT EXISTS",
      "CREATE TYPE api.note_state AS ENUM ('a'';b')",
      "CREATE TABLE api.note IF NOT EXISTS (\n  id SERIAL PRIMARY KEY,\n  body CHARACTER VARYING "
        ++ "CHECK (''';--' ~* body),\n  state API.NOTE_STATE\n)",
      "COMMENT ON COLUMN api.note.body IS 'it''s; gone'",
      "COMMIT",
      ""] := by
  have hcompiled : hostile.compile checking = .ok (hostile.migration checking) := by
    have hfailure : hostile.compileFailure? checking = none := by decide +kernel
    rw [Model.compile_eq, hfailure, barring_none]
  exact ⟨_, hcompiled,
    (compile_statements hcompiled balanced_checking balanced_hostile).trans (by decide +kernel)⟩

end Tablewright
