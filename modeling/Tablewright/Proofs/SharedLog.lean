/-
Calls that share one log.

Everything that may warn is handed the log so far and hands it on.  None of it looks
at what is there: a call gives from every log what it gives from the empty one, and
puts the same warnings behind those that it finds, and that is so of a call that
fails as well.  `Appends` says it of one computation; for types it comes from the
recursion through lists, and for blueprints and scripts from the traversals, which
stop at their first failure and keep the warnings up to it.

So when calls are made one after the other on a log that they share, each comes to
what it would come to alone.  The log is then the one at the start and the warnings
of every call behind it, in the order of the calls.
-/
import Tablewright.Proofs.Blueprint
import Tablewright.Proofs.Script

namespace Tablewright

variable {α : Type}

/-- From every log the action comes to what it comes to from the empty one, and adds to the log just
the warnings that it gives there. -/
def Checked.Appends (action : Checked α) : Prop :=
  ∀ log, action.from log = ((action.from []).1, log ++ (action.from []).2)

theorem Checked.Gives.appends {action : Checked α} {failure? : Option Failure} {value : α}
    {added : Log} (h : Gives action failure? value added) : action.Appends := by
  intro log
  have hempty := h []
  rw [List.nil_append] at hempty
  rw [h log, hempty]

/-! ### Calls -/

/-- What a call gives. -/
inductive Answer
  | text (text : String)
  | columns (columns : List Column)
  | blueprint (blueprint : Blueprint)

/-- A call of something that is drawn or written on the way from a model to its script. -/
inductive Call
  | sqlType (address : ColumnAddress) (node : Node)
  | idColumns (policy : Policy)
  | timestampColumns (policy : Policy) (address : TableAddress)
  | operatorColumns (policy : Policy) (address : TableAddress)
  | softDeleteColumns (policy : Policy)
  | blueprint (m : Model) (settings : Settings)
  | script (schemaName : String) (b : Blueprint)
  | schema (name : String)
  | enumType (t : EnumType)
  | table (t : Table)
  | column (c : Column)
  | comment (c : Comment)

namespace Call

/-- What is called. -/
def action : Call → Checked Answer
  | sqlType address node => return .text (← node.sqlType address)
  | idColumns policy => return .columns policy.idColumns
  | timestampColumns policy address => return .columns (← policy.timestampColumns address)
  | operatorColumns policy address => return .columns (← policy.operatorColumns address)
  | softDeleteColumns policy => return .columns policy.softDeleteColumns
  | blueprint m settings => return .blueprint (← m.blueprint settings)
  | script schemaName b => return .text (← Script.ofBlueprint schemaName b)
  | schema name => return .text (Script.schema name)
  | enumType t => return .text (← Script.enumType t)
  | table t => return .text (← Script.table t)
  | column c => return .text (← liftExcept (Script.column c))
  | comment c => return .text (← Script.comment c)

/-- What the call comes to on its own. -/
def outcome (call : Call) : Except Failure Answer :=
  (call.action.from []).1

/-- The warnings that the call gives on its own. -/
def warnings (call : Call) : Log :=
  (call.action.from []).2

/-- Makes calls one after the other, each from the log that those before it leave, whether they
fail or not. -/
def runAll : List Call → Log → List (Except Failure Answer) × Log
  | [], log => ([], log)
  | call :: rest, log =>
    let (outcome, log) := call.action.from log
    let (outcomes, log) := runAll rest log
    (outcome :: outcomes, log)

/-- **A call does not look at the log that it is given.** -/
theorem action_appends (call : Call) : call.action.Appends := by
  cases call with
  | sqlType address node =>
      have hnode := node.sqlType_gives address
      exact (Checked.gives_map hnode Answer.text).appends
  | idColumns policy => exact (Checked.gives_pure _).appends
  | timestampColumns policy address =>
      have hpair := policy.pairColumns_gives Policy.timestampPair "timestamp" address
      exact (Checked.gives_map (Checked.gives_liftM hpair) Answer.columns).appends
  | operatorColumns policy address =>
      have hpair := policy.pairColumns_gives Policy.operatorPair "operator" address
      exact (Checked.gives_map (Checked.gives_liftM hpair) Answer.columns).appends
  | softDeleteColumns policy => exact (Checked.gives_pure _).appends
  | blueprint m settings =>
      have hmodel := m.blueprint_gives settings
      exact (Checked.gives_map hmodel Answer.blueprint).appends
  | script schemaName b =>
      have hscript := Script.ofBlueprint_gives schemaName b
      exact (Checked.gives_map hscript Answer.text).appends
  | schema name => exact (Checked.gives_pure _).appends
  | enumType t =>
      have htype := Checked.gives_liftM (Script.enumType_gives t)
      exact (Checked.gives_map htype Answer.text).appends
  | table t =>
      have htable := Script.table_gives t
      exact (Checked.gives_map htable Answer.text).appends
  | column c =>
      have hcolumn := Checked.gives_liftExcept (Script.column_eq c)
      exact (Checked.gives_map hcolumn Answer.text).appends
  | comment c =>
      have hcomment := Checked.gives_liftM (Script.comment_gives c)
      exact (Checked.gives_map hcomment Answer.text).appends

/-- A call on a log comes to what it comes to on its own, and its warnings stand behind the log. -/
theorem from_eq (call : Call) (log : Log) :
    call.action.from log = (call.outcome, log ++ call.warnings) :=
  call.action_appends log

/-- So do calls one after the other. -/
theorem runAll_eq (calls : List Call) (log : Log) :
    runAll calls log = (calls.map outcome, log ++ calls.flatMap warnings) := by
  induction calls generalizing log with
  | nil =>
      show ([], log) = ([], log ++ [])
      rw [List.append_nil]
  | cons call rest ih =>
      have hfirst := call.from_eq log
      have hrest := ih (log ++ call.warnings)
      rw [runAll]
      simp only [hfirst, hrest, List.map_cons, List.flatMap_cons, List.append_assoc]

end Call

/--
**Calls that share a log do not meet each other in it.**  Each comes to what it comes to on the empty
log, after whatever calls before it and whether these fail or not.  The log at the end is the one at
the start and behind it the warnings of each call, those of the calls that fail among them: none is
lost or repeated, and they stand in the order of the calls.
-/
theorem calls_share_log :
    (∀ (call : Call) (log : Log),
      call.action.from log = ((call.action.from []).1, log ++ (call.action.from []).2)) ∧
    ∀ (calls : List Call) (log : Log),
      Call.runAll calls log = (calls.map fun call => (call.action.from []).1,
        log ++ calls.flatMap fun call => (call.action.from []).2) :=
  ⟨fun call log => call.action_appends log, Call.runAll_eq⟩

/-- A purse, of whose columns the first is a number of an unknown format and the second has no
type. -/
def halfTypedPurse : Model :=
  Model.ofList [("purse", .object
    [("sum", .scalar (some "money") { type := some "number" }),
      ("coins", .bareList { type := some "array" })] {} {})]

/-- A drawing that fails keeps the warning that it has given, and leaves the call behind it alone. -/
example (w : Warning) :
    (Call.runAll [.blueprint halfTypedPurse {}, .table ⟨"api.void", []⟩] [w]).2
      = [w, ⟨.unknownNumericFormat, "api.purse.sum",
          "Unknown numeric format 'money', falling back to integer"⟩,
        ⟨.emptyColumns, "api.void", "Table has no columns"⟩] := rfl

end Tablewright
