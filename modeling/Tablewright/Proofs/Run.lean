/-
Runs on scenes as plain functions.

Up to the compiled script a run does nothing that a journal could tell of, so its
first stages are plain functions of the scene: `configuration`, `model` and
`script`, which the computation is shown to equal.  Only the hand-over of the
script leaves traces.  `Delivered` has one rule for each way through its cases,
with what the run comes to and the journal it leaves, so that later proofs take
those rules one by one and never open the computation again.
-/
import Tablewright.Proofs.Result
import Tablewright.Run.Scene

namespace Tablewright

open CommandLine

namespace Scene

/-! ### The stages up to the script -/

/-- The text of a file. -/
def read (s : Scene) (path : String) : Except Failure String :=
  (s.file path).mapError (Failure.fileRead path)

/-- The configuration of a run: the built-in one where no file is named. -/
def configuration (s : Scene) (o : Options) : Except Failure Configuration :=
  match o.configuration with
  | none => pure {}
  | some path => do (Configuration.ofToml (← s.read path)).mapError (Run.inFile path)

/-- The format of the file at a path: the one that is asked for, or the one its name tells. -/
def format (o : Options) (path : String) : Except Failure Format :=
  (o.format.map pure).getD (Format.ofPath path)

/-- What is reported of a standard input that cannot be read. -/
def inputFault (reason : String) : Failure :=
  (Failure.stream reason).within "Failed to read model from stdin"

/-- What is reported of a model on the standard input that is not understood. -/
def inputTextFault (format : Format) : Failure → Failure :=
  Failure.within ("Model on stdin (" ++ format.word ++ ")")

/-- The model of a run. -/
def model (s : Scene) (o : Options) : Except Failure Model :=
  match o.file with
  | some path => do
    let format ← format o path
    let text ← s.read path
    Model.ofText format text
  | none => do
    let text ← s.input.mapError inputFault
    (Model.ofText (o.format.getD .json) text).mapError (inputTextFault (o.format.getD .json))

/-- The script of a run, and the target that its configuration may have. -/
def script (s : Scene) (o : Options) : Except Failure (Option Target × String) := do
  let configuration ← s.configuration o
  let model ← s.model o
  let migration ← model.compile (o.settings configuration.settings)
  pure (configuration.target, migration.sql)

/-! ### The computation on a scene -/

/-- A computation on a scene. -/
abbrev Action (α : Type) := ExceptT Failure (StateM Journal) α

theorem liftExcept_bind {α β : Type} (result : Except Failure α) (next : α → Except Failure β) :
    (liftExcept result >>= fun a => liftExcept (next a) : Action β)
      = liftExcept (result >>= next) := by
  cases result <;> rfl

theorem readFile_eq (s : Scene) (path : String) :
    Run.readFile s.system path = (liftExcept (s.read path) : Action String) := by
  unfold read
  show (ExceptT.mk (pure ((s.file path).mapError _)) : Action String) = _
  cases s.file path <;> rfl

theorem readInput_eq (s : Scene) :
    Run.ask s.system.readInput inputFault
      = (liftExcept (s.input.mapError inputFault) : Action String) := by
  show (ExceptT.mk (pure (s.input.mapError _)) : Action String) = _
  cases s.input <;> rfl

theorem configuration_eq (s : Scene) (o : Options) :
    Run.configuration s.system o = (liftExcept (s.configuration o) : Action Configuration) := by
  unfold Run.configuration configuration
  cases o.configuration with
  | none => rfl
  | some path => simp only [readFile_eq, liftExcept_bind]

theorem model_eq (s : Scene) (o : Options) :
    Run.model s.system o = (liftExcept (s.model o) : Action Model) := by
  unfold Run.model model
  cases o.file with
  | some path =>
      simp only [readFile_eq, liftExcept_bind]
      rfl
  | none =>
      show (Run.ask s.system.readInput inputFault >>= _ : Action Model) = _
      rw [readInput_eq]
      exact liftExcept_bind _ _

/-- Showing warnings leaves no trace. -/
theorem report_eq (s : Scene) (log : Log) :
    (forIn log PUnit.unit fun warning _ => do
      s.system.report warning
      pure (.yield PUnit.unit) : Action PUnit) = pure PUnit.unit := by
  induction log with
  | nil => rfl
  | cons warning rest ih =>
      rw [List.forIn_cons]
      exact ih

/-- A run compiles its script, which needs nothing but the answers of the scene, and hands it
over. -/
theorem run_eq (s : Scene) (defaults : ConnectionDefaults) (o : Options) :
    Tablewright.run s.system defaults o = (liftExcept (s.script o) >>= fun (target, text) =>
      Run.deliver s.system o defaults target text : Action Unit) := by
  unfold Tablewright.run script
  rw [configuration_eq, model_eq]
  cases s.configuration o with
  | error failure => rfl
  | ok c =>
      cases s.model o with
      | error failure => rfl
      | ok m =>
          show (liftExcept (m.compile (o.settings c.settings)) >>= _ : Action Unit)
            = liftExcept (m.compile (o.settings c.settings) >>= _) >>= _
          cases m.compile (o.settings c.settings) with
          | error failure => rfl
          | ok migration =>
              show (forIn (m := ExceptT Failure (StateM Journal)) migration.warnings PUnit.unit _
                >>= _) = _
              rw [report_eq]
              rfl

/-! ### Handing the script over -/

/-- No file that is asked for refuses the script. -/
def Passes (s : Scene) (o : Options) (text : String) : Prop :=
  ∀ path, o.output = some path → s.write path text = .ok ()

/-- What a script that passes leaves in the files. -/
def files (o : Options) (text : String) : List (String × String) :=
  o.output.toList.map (·, text)

/-- How handing over a script goes: what it comes to and the journal it leaves.  Each rule is one
way through the cases. -/
inductive Delivered (s : Scene) (defaults : ConnectionDefaults) (o : Options)
    (target : Option Target) (text : String) : Except Failure Unit → Journal → Prop
  | unwritten {path reason : String} (named : o.output = some path)
      (unwritten : s.write path text = .error reason) :
      Delivered s defaults o target text (.error (.fileWrite path reason)) {}
  | unprinted {reason : String} (passes : s.Passes o text) (wanted : o.dryRun = true)
      (unprinted : s.print text = .error reason) :
      Delivered s defaults o target text (.error (.stream reason)) { written := files o text }
  | printed (passes : s.Passes o text) (wanted : o.dryRun = true) (printed : s.print text = .ok ()) :
      Delivered s defaults o target text (.ok ()) { written := files o text, printed := [text] }
  | written {path : String} (passes : s.Passes o text) (named : o.output = some path)
      (unwanted : o.dryRun = false) :
      Delivered s defaults o target text (.ok ()) { written := files o text }
  | unresolved {failure : Failure} (unnamed : o.output = none) (unwanted : o.dryRun = false)
      (fault : (o.target target).resolve defaults = .error failure) :
      Delivered s defaults o target text (.error failure) {}
  | executed {connection : Connection} (unnamed : o.output = none) (unwanted : o.dryRun = false)
      (resolved : (o.target target).resolve defaults = .ok connection) :
      Delivered s defaults o target text (s.execute connection text)
        { executed := [(connection, text)] }

theorem write_eq_throw {s : Scene} {path text reason : String}
    (unwritten : s.write path text = .error reason) :
    Run.ask (s.system.writeFile path text) (.fileWrite path)
      = (throw (.fileWrite path reason) : Action Unit) := by
  show ExceptT.mk (Except.mapError _ <$> s.writeFile path text) = _
  rw [writeFile, unwritten]
  rfl

theorem write_eq_note {s : Scene} {path text : String} (written : s.write path text = .ok ()) :
    Run.ask (s.system.writeFile path text) (.fileWrite path)
      = (modifyThe Journal fun j => { j with written := j.written ++ [(path, text)] } :
        Action Unit) := by
  show ExceptT.mk (Except.mapError _ <$> s.writeFile path text) = _
  rw [writeFile, written]
  rfl

theorem print_eq_throw {s : Scene} {text reason : String} (unprinted : s.print text = .error reason) :
    Run.ask (s.system.print text) .stream = (throw (.stream reason) : Action Unit) := by
  show ExceptT.mk (Except.mapError _ <$> s.printText text) = _
  rw [printText, unprinted]
  rfl

theorem print_eq_note {s : Scene} {text : String} (printed : s.print text = .ok ()) :
    Run.ask (s.system.print text) .stream
      = (modifyThe Journal fun j => { j with printed := j.printed ++ [text] } : Action Unit) := by
  show ExceptT.mk (Except.mapError _ <$> s.printText text) = _
  rw [printText, printed]
  rfl

/-- Where the files take the script, writing it is nothing but a note of them. -/
theorem deliver_of_passes {s : Scene} {o : Options} {text : String} (passes : s.Passes o text)
    (defaults : ConnectionDefaults) (target : Option Target) :
    Run.deliver s.system o defaults target text = (do
      modifyThe Journal fun j => { j with written := j.written ++ files o text }
      if o.dryRun then
        Run.ask (s.system.print text) .stream
      if o.output.isNone && !o.dryRun then
        let connection ← liftExcept ((o.target target).resolve defaults)
        Run.execute s.system (some connection) text : Action Unit) := by
  unfold Run.deliver files
  cases hpath : o.output with
  | some path =>
      dsimp only
      rw [write_eq_note (passes path hpath)]
      rfl
  | none =>
      have hnote : (modifyThe Journal fun j => { j with written := j.written ++ [] } : Action Unit)
          = pure () := by
        simp only [List.append_nil]
        rfl
      simp only [Option.toList_none, List.map_nil]
      rw [hnote]
      rfl

/-- The case analysis of handing over a script has the rules of `Delivered` for its leaves. -/
theorem delivered (s : Scene) (defaults : ConnectionDefaults) (o : Options)
    (target : Option Target) (text : String) :
    Delivered s defaults o target text (outcome (Run.deliver s.system o defaults target text)).1
      (outcome (Run.deliver s.system o defaults target text)).2 := by
  by_cases hpasses : s.Passes o text
  · rw [deliver_of_passes hpasses]
    cases hdry : o.dryRun with
    | true =>
        rw [if_pos rfl]
        cases hprint : s.print text with
        | error reason =>
            rw [print_eq_throw hprint]
            exact .unprinted hpasses hdry hprint
        | ok _ =>
            rw [print_eq_note hprint, Bool.not_true, Bool.and_false, if_neg (by simp)]
            exact .printed hpasses hdry hprint
    | false =>
        cases hpath : o.output with
        | some path => exact .written hpasses hpath hdry
        | none =>
            have hfiles : files o text = [] := by rw [files, hpath]; rfl
            rw [hfiles]
            cases hresolve : (o.target target).resolve defaults with
            | error failure => exact .unresolved hpath hdry hresolve
            | ok connection => exact .executed hpath hdry hresolve
  · simp only [Passes, Classical.not_forall] at hpasses
    obtain ⟨path, hpath, hwrite⟩ := hpasses
    cases hreason : s.write path text with
    | ok _ => exact absurd hreason hwrite
    | error reason =>
        unfold Run.deliver
        rw [hpath]
        dsimp only
        rw [write_eq_throw hreason]
        exact .unwritten hpath hreason

/-! ### Runs -/

theorem run_of_no_script {s : Scene} {o : Options} {failure : Failure}
    (defaults : ConnectionDefaults) (h : s.script o = .error failure) :
    s.run defaults o = (.error failure, {}) := by
  unfold run
  rw [run_eq, h]
  rfl

theorem run_of_script {s : Scene} {o : Options} {target : Option Target} {text : String}
    (defaults : ConnectionDefaults) (compiled : s.script o = .ok (target, text)) :
    Delivered s defaults o target text (s.run defaults o).1 (s.run defaults o).2 := by
  have hrun : s.run defaults o = outcome (Run.deliver s.system o defaults target text) := by
    unfold run
    rw [run_eq, compiled]
    rfl
  rw [hrun]
  exact delivered s defaults o target text

end Scene

end Tablewright
