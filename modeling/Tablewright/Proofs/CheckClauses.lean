/-
The expressions of `CHECK` clauses, and the parentheses around them.

A clause is written with the check that its column has, as it stands, so the
parentheses that the database asks for have to be part of the check.  Limits on
values get them where they become a check.  A check that an entity settles, and that
of a column that the user gave, have them only if they were given with them.

`ClauseIn` lists these three ways to a clause; no column of the built-in ones has a
check.  An entity without properties settles a check for none of its columns, and an
empty check is not written.
-/
import Tablewright.Proofs.ColumnTypes
import Tablewright.Proofs.Script.Columns

namespace Tablewright

/-- The text begins with an opening parenthesis and ends with a closing one. -/
def Enclosed (text : String) : Prop :=
  text.toList.head? = some '(' ∧ text.toList.getLast? = some ')'

instance (text : String) : Decidable (Enclosed text) :=
  inferInstanceAs (Decidable (_ ∧ _))

theorem enclosed_parentheses (body : String) : Enclosed ("(" ++ body ++ ")") := by
  constructor
  · simp
  · have hlast : ("(" ++ body ++ ")").toList = ("(" ++ body).toList ++ [')'] := String.toList_append
    rw [hlast, List.getLast?_concat]

/-! ### Clauses -/

theorem Text.join_concat (separator : String) {texts : List String} (h : texts ≠ []) (last : String) :
    join separator (texts ++ [last]) = join separator texts ++ separator ++ last := by
  induction texts with
  | nil => exact absurd rfl h
  | cons first rest ih =>
      cases rest with
      | nil => rfl
      | cons second rest =>
          have hrest := ih (List.cons_ne_nil second rest)
          simp only [List.cons_append, join, String.append_assoc] at hrest ⊢
          rw [hrest]

namespace Script

variable {c : Column} {expression : String}

/-- The column is written with a `CHECK` clause of this expression. -/
def WritesCheck (c : Column) (expression : String) : Prop :=
  "CHECK " ++ expression ∈ constraints c

/-- No other constraint is written as a clause of a check is. -/
theorem writesCheck_iff : WritesCheck c expression ↔ c.check = some expression ∧ expression ≠ "" := by
  have hdefault (value : Literal) : "DEFAULT " ++ value.display ≠ "CHECK " ++ expression := by
    rw [Ne, ← String.toList_inj]
    simp
  have hword {word : String} (hfirst : word.toList.head? ≠ some 'C') :
      "CHECK " ++ expression ≠ word := by
    intro heq
    rw [← heq] at hfirst
    simp at hfirst
  have hkey : "CHECK " ++ expression ≠ "PRIMARY KEY" := hword (by decide)
  have hnull : "CHECK " ++ expression ≠ "NOT NULL" := hword (by decide)
  have hunique : "CHECK " ++ expression ≠ "UNIQUE" := hword (by decide)
  unfold WritesCheck constraints
  simp [hkey, hnull, hunique, hdefault]

/-- A clause of a check is the end of its column's definition. -/
theorem columnText_of_writesCheck (h : WritesCheck c expression) :
    ∃ start, columnText c = start ++ " CHECK " ++ expression := by
  obtain ⟨hcheck, hne⟩ := writesCheck_iff.mp h
  have hlast : ((c.check.filter (· != "")).map fun check => "CHECK " ++ check).toList
      = ["CHECK " ++ expression] := by
    simp [hcheck, hne]
  obtain ⟨before, hconstraints⟩ : ∃ before, constraints c = before ++ ["CHECK " ++ expression] := by
    unfold constraints
    rw [hlast]
    exact ⟨_, rfl⟩
  refine ⟨Text.join " " (c.name :: Text.upper c.type :: before), ?_⟩
  have hspace : " CHECK " = " " ++ "CHECK " := by decide
  unfold columnText
  rw [hconstraints, ← List.cons_append, ← List.cons_append,
    Text.join_concat " " (List.cons_ne_nil _ _), hspace]
  simp only [String.append_assoc]

end Script

/-! ### The ways to a clause -/

/-- The ways in which the table of an entity comes to a clause of this expression. -/
inductive ClauseIn (settings : Settings) (entity : String × Node) : String → Prop
  /-- The check of a column that the user gave. -/
  | given {policy : Policy} {column : Column} {expression : String}
      (hpolicy : policy ∈ (settings.within entity.2.overrides).policies)
      (hcolumn : column ∈ policy.given) (hcheck : column.check = some expression)
      (hne : expression ≠ "") : ClauseIn settings entity expression
  /-- The check that the entity settles for its declared columns. -/
  | settled {expression : String} (hcheck : entity.2.overrides.check = some expression)
      (hproperties : entity.2.properties ≠ []) (hne : expression ≠ "") :
      ClauseIn settings entity expression
  /-- The limits of a property. -/
  | limits {property : String × Node} {limits : String}
      (hsettled : entity.2.overrides.check = none) (hchecks : settings.checks = true)
      (hproperty : property ∈ entity.2.properties)
      (hlimits : property.2.check? property.1 = some limits) :
      ClauseIn settings entity ("(" ++ limits ++ ")")

/-- No column that the user gave for the tables of a model has a check. -/
def Settings.GivesNoCheck (settings : Settings) (m : Model) : Prop :=
  ∀ entity ∈ m.entities, ∀ policy ∈ (settings.within entity.2.overrides).policies,
    ∀ column ∈ policy.given, column.check = none

instance (settings : Settings) (m : Model) : Decidable (settings.GivesNoCheck m) :=
  inferInstanceAs (Decidable (∀ entity ∈ m.entities, _))

namespace Blueprint

variable {settings : Settings} {entity : String × Node} {expression : String}

theorem propertyCheck_eq_some_iff {overrides : Overrides} {name : String} {property : Node} :
    propertyCheck settings overrides name property = some expression ↔
      overrides.check = some expression ∨
      overrides.check = none ∧ settings.checks = true ∧
        ∃ limits, property.check? name = some limits ∧ "(" ++ limits ++ ")" = expression := by
  unfold propertyCheck
  cases overrides.check with
  | some settled => simp
  | none =>
      cases settings.checks with
      | false => simp
      | true => simp

/-- **A table has a clause exactly where one of the ways leads to it.** -/
theorem exists_writesCheck_iff :
    (∃ column ∈ entityColumns settings entity, Script.WritesCheck column expression) ↔
      ClauseIn settings entity expression := by
  constructor
  · rintro ⟨column, hcolumn, hwrites⟩
    obtain ⟨hcheck, hne⟩ := Script.writesCheck_iff.mp hwrites
    cases columnFrom_of_mem hcolumn with
    | declared hproperty =>
        rcases propertyCheck_eq_some_iff.mp hcheck with hsettled |
          ⟨hsettled, hchecks, limits, hlimits, rfl⟩
        · exact .settled hsettled (List.ne_nil_of_mem hproperty) hne
        · exact .limits hsettled hchecks hproperty hlimits
    | given hpolicy hgiven => exact .given hpolicy hgiven hcheck hne
    | serial => cases hcheck
    | tagged => cases hcheck
    | paired hpair =>
        have hpairs : ∀ c ∈ Policy.timestampPair ++ Policy.operatorPair, c.check = none := by
          decide
        cases (hpairs column hpair).symm.trans hcheck
    | mark => cases hcheck
  · have hdeclared {property : String × Node} (hproperty : property ∈ entity.2.properties)
        (hcheck : propertyCheck settings entity.2.overrides property.1 property.2
          = some expression) (hne : expression ≠ "") :
        ∃ column ∈ entityColumns settings entity, Script.WritesCheck column expression :=
      ⟨_, mem_entityColumns_iff.mpr (.inr (.inl ⟨property, hproperty, rfl⟩)),
        Script.writesCheck_iff.mpr ⟨hcheck, hne⟩⟩
    intro h
    cases h with
    | given hpolicy hcolumn hcheck hne =>
        exact ⟨_, mem_entityColumns_of_given hpolicy hcolumn,
          Script.writesCheck_iff.mpr ⟨hcheck, hne⟩⟩
    | settled hcheck hproperties hne =>
        obtain ⟨property, hproperty⟩ := List.exists_mem_of_ne_nil _ hproperties
        exact hdeclared hproperty (propertyCheck_eq_some_iff.mpr (.inl hcheck)) hne
    | @limits property limits hsettled hchecks hproperty hlimits =>
        refine hdeclared hproperty (propertyCheck_eq_some_iff.mpr
          (.inr ⟨hsettled, hchecks, limits, hlimits, rfl⟩)) ?_
        rw [Ne, ← String.toList_inj]
        simp

end Blueprint

/--
**The parentheses around a check.**  In a compiled model each table has just the clauses that
`ClauseIn` lists, and each of them ends the definition of its column.  So where no column that the
user gave has a check, all clauses are in parentheses exactly when each check is that an entity
with properties settles, unless it is empty: nothing else puts parentheses around these.
-/
theorem checkClauses_enclosed_iff {m : Model} {settings : Settings} {migration : Migration}
    (compiled : m.compile settings = .ok migration) :
    List.Forall₂ (fun entity table => ∀ expression,
        (∃ column ∈ table.columns, Script.WritesCheck column expression) ↔
          ClauseIn settings entity expression)
      m.entities migration.blueprint.tables ∧
    (∀ table ∈ migration.blueprint.tables, ∀ column ∈ table.columns, ∀ expression,
      Script.WritesCheck column expression →
        ∃ start, Script.column column = .ok (start ++ " CHECK " ++ expression)) ∧
    (settings.GivesNoCheck m →
      ((∀ table ∈ migration.blueprint.tables, ∀ column ∈ table.columns, ∀ expression,
          Script.WritesCheck column expression → Enclosed expression) ↔
        ∀ entity ∈ m.entities, entity.2.properties ≠ [] → ∀ expression ≠ "",
          entity.2.overrides.check = some expression → Enclosed expression)) := by
  obtain ⟨-, hwritten, rfl⟩ := Model.of_compiled compiled
  have htables : (m.migration settings).blueprint.tables
      = m.entities.map (Blueprint.entityTable settings) := rfl
  rw [htables]
  refine ⟨?_, ?_, ?_⟩
  · rw [List.forall₂_map_right_iff, List.forall₂_same]
    intro entity _ expression
    exact Blueprint.exists_writesCheck_iff
  · intro table htable column hcolumn expression hwrites
    have hpart : Script.partFailure? column = none :=
      List.findSome?_eq_none_iff.mp (List.findSome?_eq_none_iff.mp hwritten table htable) column
        hcolumn
    obtain ⟨start, htext⟩ := Script.columnText_of_writesCheck hwrites
    exact ⟨start, Script.column_eq_ok_iff.mpr ⟨hpart, htext⟩⟩
  · intro hunchecked
    constructor
    · intro henclosed entity hentity hproperties expression hne hcheck
      obtain ⟨column, hcolumn, hwrites⟩ :=
        Blueprint.exists_writesCheck_iff.mpr (ClauseIn.settled hcheck hproperties hne)
      exact henclosed _ (List.mem_map_of_mem hentity) column hcolumn expression hwrites
    · intro hsettled table htable column hcolumn expression hwrites
      obtain ⟨entity, hentity, rfl⟩ := List.mem_map.mp htable
      cases Blueprint.exists_writesCheck_iff.mp ⟨column, hcolumn, hwrites⟩ with
      | given hpolicy hgiven hcheck hne =>
          cases (hunchecked entity hentity _ hpolicy _ hgiven).symm.trans hcheck
      | settled hcheck hproperties hne =>
          exact hsettled entity hentity hproperties expression hne hcheck
      | limits => exact enclosed_parentheses _

/-- A log of named lines, for whose columns this check is settled. -/
def namedLog (check : Option String) : Model :=
  Model.ofList [("log", .object
    [("name", .scalar none { type := some "string", facets := { minLength := some 1 } })]
    { timestamp := some .disabled, softDelete := some .disabled, check } {})]

theorem checkClauses_enclosed_iff_log :
    ∃ migration, (namedLog (some "(char_length(name) > 0)")).compile { checks := true }
        = .ok migration ∧
      Settings.GivesNoCheck { checks := true } (namedLog (some "(char_length(name) > 0)")) ∧
      ∀ table ∈ migration.blueprint.tables, ∀ column ∈ table.columns, ∀ expression,
        Script.WritesCheck column expression → Enclosed expression := by
  have hcompiled : (namedLog (some "(char_length(name) > 0)")).compile { checks := true } = .ok _ :=
    Model.compile_of_none rfl
  have hgiven : Settings.GivesNoCheck { checks := true }
      (namedLog (some "(char_length(name) > 0)")) := by decide +kernel
  refine ⟨_, hcompiled, hgiven, ((checkClauses_enclosed_iff hcompiled).2.2 hgiven).mpr ?_⟩
  intro entity hentity _ expression _ hcheck
  obtain rfl : entity = _ := List.mem_singleton.mp hentity
  obtain rfl : "(char_length(name) > 0)" = expression := Option.some.inj hcheck
  decide

/-- A check that is settled without parentheses is written without them. -/
theorem checkClauses_bare : ∃ migration table column,
    (namedLog (some "char_length(name) > 0")).compile {} = .ok migration ∧
    Settings.GivesNoCheck {} (namedLog (some "char_length(name) > 0")) ∧
    table ∈ migration.blueprint.tables ∧ column ∈ table.columns ∧
    Script.WritesCheck column "char_length(name) > 0" ∧
    Script.column column = .ok "name CHARACTER VARYING CHECK char_length(name) > 0" ∧
    ¬ Enclosed "char_length(name) > 0" := by
  refine ⟨_, _, Blueprint.declaredColumn {} _ ⟨"api", "log"⟩ _, Model.compile_of_none rfl, ?_,
    List.mem_singleton_self _, List.mem_cons_of_mem _ List.mem_cons_self, ?_, ?_, ?_⟩
  · decide +kernel
  · exact Script.writesCheck_iff.mpr ⟨rfl, by decide⟩
  · rfl
  · decide

end Tablewright
