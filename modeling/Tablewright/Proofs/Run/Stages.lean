/-
What stops a run, and what it leaves behind.

The stages of a run are tried in one order, and the first stage that fails stops
it.  `Unscripted` says which stage keeps the script from coming about and
`Stopped` which stage stops the run, each with the failure that is reported; each
rule asks that every stage before its own succeeded.  `Writes`, `Prints` and
`Executes` say when a run leaves its three traces, and with which text.  A run
that is stopped leaves no trace of a later stage, because each of the three asks
for the success of all stages before it.
-/
import Tablewright.Proofs.Run

namespace Tablewright

open CommandLine

/-- The list has the one thing of which this holds, and is empty where there is none. -/
def Only {α : Type} (p : α → Prop) (l : List α) : Prop :=
  (∃ a, p a ∧ l = [a]) ∨ (∀ a, ¬ p a) ∧ l = []

/-- The stages at which a run may be stopped, in their order. -/
inductive Stage
  /-- The file of the configuration is read. -/
  | configurationFile
  /-- The text of that file is understood. -/
  | configuration
  /-- The format of the model is told from the name of its file. -/
  | format
  /-- The file of the model is read. -/
  | modelFile
  /-- The model is read from the standard input, where no file is named. -/
  | input
  /-- The text of the model is understood. -/
  | model
  | compiling
  | writing
  | printing
  /-- The target is resolved to a connection. -/
  | connection
  | execution
deriving DecidableEq

namespace Scene

/-! ### What stops a run and what it leaves behind -/

/-- The stage keeps the script from coming about, all stages before it having succeeded. -/
inductive Unscripted (s : Scene) (o : Options) : Stage → Failure → Prop
  | configurationFile {path reason : String} (named : o.configuration = some path)
      (unread : s.file path = .error reason) :
      Unscripted s o .configurationFile (.fileRead path reason)
  | configuration {path text : String} {failure : Failure} (named : o.configuration = some path)
      (readable : s.file path = .ok text) (fault : Configuration.ofToml text = .error failure) :
      Unscripted s o .configuration (Run.inFile path failure)
  | format {c : Configuration} {path : String} {failure : Failure}
      (configured : s.configuration o = .ok c) (named : o.file = some path)
      (fault : format o path = .error failure) : Unscripted s o .format failure
  | modelFile {c : Configuration} {path reason : String} {format : Format}
      (configured : s.configuration o = .ok c) (named : o.file = some path)
      (formatted : Scene.format o path = .ok format) (unread : s.file path = .error reason) :
      Unscripted s o .modelFile (.fileRead path reason)
  | input {c : Configuration} {reason : String} (configured : s.configuration o = .ok c)
      (unnamed : o.file = none) (unread : s.input = .error reason) :
      Unscripted s o .input (inputFault reason)
  | fileText {c : Configuration} {path text : String} {format : Format} {failure : Failure}
      (configured : s.configuration o = .ok c) (named : o.file = some path)
      (formatted : Scene.format o path = .ok format) (readable : s.file path = .ok text)
      (fault : Model.ofText format text = .error failure) : Unscripted s o .model failure
  | inputText {c : Configuration} {text : String} {failure : Failure}
      (configured : s.configuration o = .ok c) (unnamed : o.file = none)
      (readable : s.input = .ok text)
      (fault : Model.ofText (o.format.getD .json) text = .error failure) :
      Unscripted s o .model (inputTextFault (o.format.getD .json) failure)
  | compiling {c : Configuration} {m : Model} {failure : Failure}
      (configured : s.configuration o = .ok c) (modelled : s.model o = .ok m)
      (fault : m.compile (o.settings c.settings) = .error failure) :
      Unscripted s o .compiling failure

/-- The stage stops the run with this failure, all stages before it having succeeded. -/
inductive Stopped (s : Scene) (defaults : ConnectionDefaults) (o : Options) :
    Stage → Failure → Prop
  | unscripted {stage : Stage} {failure : Failure} (unscripted : Unscripted s o stage failure) :
      Stopped s defaults o stage failure
  | writing {target : Option Target} {text path reason : String}
      (compiled : s.script o = .ok (target, text)) (named : o.output = some path)
      (unwritten : s.write path text = .error reason) :
      Stopped s defaults o .writing (.fileWrite path reason)
  | printing {target : Option Target} {text reason : String}
      (compiled : s.script o = .ok (target, text))
      (passes : s.Passes o text) (wanted : o.dryRun = true)
      (unprinted : s.print text = .error reason) :
      Stopped s defaults o .printing (.stream reason)
  | connection {target : Option Target} {text : String} {failure : Failure}
      (compiled : s.script o = .ok (target, text)) (unnamed : o.output = none)
      (unwanted : o.dryRun = false) (fault : (o.target target).resolve defaults = .error failure) :
      Stopped s defaults o .connection failure
  | execution {target : Option Target} {text : String} {connection : Connection}
      {failure : Failure} (compiled : s.script o = .ok (target, text)) (unnamed : o.output = none)
      (unwanted : o.dryRun = false) (resolved : (o.target target).resolve defaults = .ok connection)
      (fault : s.execute connection text = .error failure) :
      Stopped s defaults o .execution failure

/-- The run compiles this script, is asked to write it to this file, and can. -/
def Writes (s : Scene) (o : Options) (path text : String) : Prop :=
  (∃ target, s.script o = .ok (target, text)) ∧ o.output = some path ∧ s.write path text = .ok ()

/-- The run compiles this script, writes it where it is asked to, and is asked to print it. -/
def Prints (s : Scene) (o : Options) (text : String) : Prop :=
  (∃ target, s.script o = .ok (target, text)) ∧
    s.Passes o text ∧ o.dryRun = true ∧ s.print text = .ok ()

/-- The run compiles this script, is asked neither to write nor to print it, and resolves its target
to this connection. -/
def Executes (s : Scene) (defaults : ConnectionDefaults) (o : Options) (connection : Connection)
    (text : String) : Prop :=
  ∃ target, s.script o = .ok (target, text) ∧ o.output = none ∧ o.dryRun = false ∧
    (o.target target).resolve defaults = .ok connection

/-! ### What keeps a script from coming about -/

theorem read_eq_ok_iff {s : Scene} {path text : String} :
    s.read path = .ok text ↔ s.file path = .ok text := by
  rw [read, mapError_eq_ok_iff]

theorem read_eq_error_iff {s : Scene} {path : String} {failure : Failure} :
    s.read path = .error failure ↔
      ∃ reason, s.file path = .error reason ∧ Failure.fileRead path reason = failure := by
  rw [read, mapError_eq_error_iff]

theorem unscripted_of_configuration {s : Scene} {o : Options} {failure : Failure}
    (h : s.configuration o = .error failure) : ∃ stage, Unscripted s o stage failure := by
  unfold configuration at h
  cases hpath : o.configuration with
  | none =>
      rw [hpath] at h
      cases h
  | some path =>
      rw [hpath, bind_eq_error_iff] at h
      rcases h with hread | ⟨text, hread, htext⟩
      · obtain ⟨reason, hfile, rfl⟩ := read_eq_error_iff.mp hread
        exact ⟨_, .configurationFile hpath hfile⟩
      · obtain ⟨cause, hcause, rfl⟩ := mapError_eq_error_iff.mp htext
        exact ⟨_, .configuration hpath (read_eq_ok_iff.mp hread) hcause⟩

theorem unscripted_of_model {s : Scene} {o : Options} {c : Configuration} {failure : Failure}
    (configured : s.configuration o = .ok c) (h : s.model o = .error failure) :
    ∃ stage, Unscripted s o stage failure := by
  unfold model at h
  cases hpath : o.file with
  | some path =>
      rw [hpath] at h
      dsimp only at h
      rw [bind_eq_error_iff] at h
      rcases h with hformat | ⟨format, hformat, h⟩
      · exact ⟨_, .format configured hpath hformat⟩
      · rw [bind_eq_error_iff] at h
        rcases h with hread | ⟨text, hread, htext⟩
        · obtain ⟨reason, hfile, rfl⟩ := read_eq_error_iff.mp hread
          exact ⟨_, .modelFile configured hpath hformat hfile⟩
        · exact ⟨_, .fileText configured hpath hformat (read_eq_ok_iff.mp hread) htext⟩
  | none =>
      rw [hpath] at h
      dsimp only at h
      rw [bind_eq_error_iff] at h
      rcases h with hinput | ⟨text, hinput, htext⟩
      · obtain ⟨reason, hreason, rfl⟩ := mapError_eq_error_iff.mp hinput
        exact ⟨_, .input configured hpath hreason⟩
      · obtain ⟨cause, hcause, rfl⟩ := mapError_eq_error_iff.mp htext
        exact ⟨_, .inputText configured hpath (mapError_eq_ok_iff.mp hinput) hcause⟩

/-- A script fails to come about exactly where one of the stages in front of it fails. -/
theorem script_eq_error_iff {s : Scene} {o : Options} {failure : Failure} :
    s.script o = .error failure ↔ ∃ stage, Unscripted s o stage failure := by
  constructor
  · intro h
    rw [script, bind_eq_error_iff] at h
    rcases h with hconfiguration | ⟨c, configured, h⟩
    · exact unscripted_of_configuration hconfiguration
    · rw [bind_eq_error_iff] at h
      rcases h with hmodel | ⟨m, modelled, h⟩
      · exact unscripted_of_model configured hmodel
      · rw [bind_eq_error_iff] at h
        rcases h with hcompile | ⟨migration, -, h⟩
        · exact ⟨_, .compiling configured modelled hcompile⟩
        · cases h
  · intro ⟨stage, h⟩
    cases h with
    | configurationFile named unread => simp [script, configuration, named, read, unread]
    | configuration named readable fault =>
        simp [script, configuration, named, read, readable, fault]
    | format configured named fault => simp [script, configured, model, named, fault]
    | modelFile configured named formatted unread =>
        simp [script, configured, model, named, formatted, read, unread]
    | input configured unnamed unread => simp [script, configured, model, unnamed, unread]
    | fileText configured named formatted readable fault =>
        simp [script, configured, model, named, formatted, read, readable, fault]
    | inputText configured unnamed readable fault =>
        simp [script, configured, model, unnamed, readable, fault]
    | compiling configured modelled fault =>
        rw [script, configured, ok_bind, modelled, ok_bind, fault, error_bind]

/-- Without a script, nothing but what kept it from coming about stops the run. -/
theorem eq_iff_stopped_of_no_script {s : Scene} {o : Options} {failure : Failure}
    (defaults : ConnectionDefaults) (h : s.script o = .error failure) (reported : Failure) :
    failure = reported ↔ ∃ stage, Stopped s defaults o stage reported := by
  constructor
  · intro hsame
    subst hsame
    obtain ⟨stage, hstage⟩ := script_eq_error_iff.mp h
    exact ⟨stage, .unscripted hstage⟩
  · intro ⟨stage, hstopped⟩
    cases hstopped with
    | unscripted unscripted =>
        rw [script_eq_error_iff.mpr ⟨_, unscripted⟩] at h
        exact (Except.error.inj h).symm
    | writing compiled => cases h.symm.trans compiled
    | printing compiled => cases h.symm.trans compiled
    | connection compiled => cases h.symm.trans compiled
    | execution compiled => cases h.symm.trans compiled

/-! ### What the hand-over of a script comes to -/

section Script

variable {s : Scene} {defaults : ConnectionDefaults} {o : Options} {target : Option Target}
  {text : String} {result : Except Failure Unit} {j : Journal}

theorem script_inj {other : Option Target × String} (compiled : s.script o = .ok (target, text))
    (compiled' : s.script o = .ok other) : (target, text) = other := by
  rw [compiled] at compiled'
  exact Except.ok.inj compiled'

/-- Where the script has come about, only the hand-over can be stopped. -/
theorem Delivered.eq_error_iff (compiled : s.script o = .ok (target, text))
    (h : Delivered s defaults o target text result j) (failure : Failure) :
    result = .error failure ↔ ∃ stage, Stopped s defaults o stage failure := by
  constructor
  · intro hresult
    cases h with
    | unwritten named unwritten =>
        cases hresult
        exact ⟨_, .writing compiled named unwritten⟩
    | unprinted passes wanted unprinted =>
        cases hresult
        exact ⟨_, .printing compiled passes wanted unprinted⟩
    | printed => cases hresult
    | written => cases hresult
    | unresolved unnamed unwanted fault =>
        cases hresult
        exact ⟨_, .connection compiled unnamed unwanted fault⟩
    | executed unnamed unwanted resolved =>
        exact ⟨_, .execution compiled unnamed unwanted resolved hresult⟩
  · intro ⟨stage, hstopped⟩
    cases hstopped with
    | unscripted unscripted =>
        rw [script_eq_error_iff.mpr ⟨_, unscripted⟩] at compiled
        cases compiled
    | writing compiled' named unwritten =>
        cases script_inj compiled compiled'
        cases h <;> simp_all [Passes]
    | printing compiled' passes wanted unprinted =>
        cases script_inj compiled compiled'
        cases h <;> simp_all [Passes]
    | connection compiled' unnamed unwanted fault =>
        cases script_inj compiled compiled'
        cases h <;> simp_all
    | execution compiled' unnamed unwanted resolved fault =>
        cases script_inj compiled compiled'
        cases h <;> simp_all

/-- The files have the script, which passes, where one is asked for. -/
theorem only_files (compiled : s.script o = .ok (target, text)) (passes : s.Passes o text) :
    Only (fun file => s.Writes o file.1 file.2) (files o text) := by
  unfold files
  cases hpath : o.output with
  | none =>
      refine Or.inr ⟨?_, rfl⟩
      intro file ⟨_, hfile, _⟩
      rw [hpath] at hfile
      cases hfile
  | some path => exact Or.inl ⟨(path, text), ⟨⟨target, compiled⟩, hpath, passes path hpath⟩, rfl⟩

theorem Delivered.only_writes (compiled : s.script o = .ok (target, text))
    (h : Delivered s defaults o target text result j) :
    Only (fun file => s.Writes o file.1 file.2) j.written := by
  have hnone (unnamed : o.output = none) :
      Only (fun file : String × String => s.Writes o file.1 file.2) [] := by
    refine Or.inr ⟨?_, rfl⟩
    intro file ⟨_, hpath, _⟩
    rw [unnamed] at hpath
    cases hpath
  cases h with
  | unwritten named unwritten =>
      refine Or.inr ⟨?_, rfl⟩
      intro file ⟨⟨target', compiled'⟩, hpath, hwrite⟩
      cases script_inj compiled compiled'
      rw [named] at hpath
      rw [← Option.some.inj hpath, unwritten] at hwrite
      cases hwrite
  | unprinted passes => exact only_files compiled passes
  | printed passes => exact only_files compiled passes
  | written passes => exact only_files compiled passes
  | unresolved unnamed => exact hnone unnamed
  | executed unnamed => exact hnone unnamed

theorem Delivered.only_prints (compiled : s.script o = .ok (target, text))
    (h : Delivered s defaults o target text result j) : Only (s.Prints o) j.printed := by
  have hnone (hbars : s.Passes o text → o.dryRun = true → s.print text = .ok () → False)
      (hempty : j.printed = []) : Only (s.Prints o) j.printed := by
    refine Or.inr ⟨?_, hempty⟩
    intro other ⟨⟨target', compiled'⟩, passes, wanted, hprint⟩
    cases script_inj compiled compiled'
    exact hbars passes wanted hprint
  cases h with
  | printed passes wanted printed =>
      exact Or.inl ⟨text, ⟨⟨target, compiled⟩, passes, wanted, printed⟩, rfl⟩
  | unwritten named unwritten =>
      refine hnone ?_ rfl
      intro passes _ _
      rw [passes _ named] at unwritten
      cases unwritten
  | unprinted _ _ unprinted =>
      refine hnone ?_ rfl
      intro _ _ printed
      rw [printed] at unprinted
      cases unprinted
  | written _ _ unwanted => exact hnone (by simp [unwanted]) rfl
  | unresolved _ unwanted => exact hnone (by simp [unwanted]) rfl
  | executed _ unwanted => exact hnone (by simp [unwanted]) rfl

theorem Delivered.only_executes (compiled : s.script o = .ok (target, text))
    (h : Delivered s defaults o target text result j) :
    Only (fun call => s.Executes defaults o call.1 call.2) j.executed := by
  have hnone (hbars : o.output = none → o.dryRun = false →
        (∃ connection, (o.target target).resolve defaults = .ok connection) → False)
      (hempty : j.executed = []) :
      Only (fun call => s.Executes defaults o call.1 call.2) j.executed := by
    refine Or.inr ⟨?_, hempty⟩
    intro ⟨connection, other⟩ ⟨target', compiled', unnamed, unwanted, resolved⟩
    cases script_inj compiled compiled'
    exact hbars unnamed unwanted ⟨connection, resolved⟩
  cases h with
  | executed unnamed unwanted resolved =>
      exact Or.inl ⟨(_, text), ⟨target, compiled, unnamed, unwanted, resolved⟩, rfl⟩
  | unwritten named => exact hnone (by simp [named]) rfl
  | unprinted _ wanted => exact hnone (by simp [wanted]) rfl
  | printed _ wanted => exact hnone (by simp [wanted]) rfl
  | written _ named => exact hnone (by simp [named]) rfl
  | unresolved _ _ fault => exact hnone (by simp [fault]) rfl

theorem Delivered.eq_execute (compiled : s.script o = .ok (target, text))
    (h : Delivered s defaults o target text result j) {connection : Connection} {sql : String}
    (executes : s.Executes defaults o connection sql) : result = s.execute connection sql := by
  obtain ⟨target', compiled', unnamed, unwanted, resolved⟩ := executes
  cases script_inj compiled compiled'
  cases h with
  | executed _ _ resolved' =>
      rw [resolved] at resolved'
      cases resolved'
      rfl
  | _ => simp_all

end Script

/-- **A run fails exactly where a stage stops it.** -/
theorem run_eq_error_iff (s : Scene) (defaults : ConnectionDefaults) (o : Options)
    (failure : Failure) :
    (s.run defaults o).1 = .error failure ↔ ∃ stage, Stopped s defaults o stage failure := by
  cases hscript : s.script o with
  | ok script => exact (run_of_script defaults hscript).eq_error_iff hscript failure
  | error reported =>
      rw [run_of_no_script defaults hscript, Except.error.injEq]
      exact eq_iff_stopped_of_no_script defaults hscript failure

end Scene

/--
**The stages of a run are tried in order and the first failure is its failure; a script is written,
printed and executed at most once, and only where every stage before it succeeded.**
-/
theorem run_stages (s : Scene) (defaults : ConnectionDefaults) (o : Options) :
    (∀ failure, (s.run defaults o).1 = .error failure ↔
      ∃ stage, s.Stopped defaults o stage failure) ∧
    Only (fun file => s.Writes o file.1 file.2) (s.run defaults o).2.written ∧
    Only (s.Prints o) (s.run defaults o).2.printed ∧
    Only (fun call => s.Executes defaults o call.1 call.2) (s.run defaults o).2.executed ∧
    ∀ connection text, s.Executes defaults o connection text →
      (s.run defaults o).1 = s.execute connection text := by
  refine ⟨s.run_eq_error_iff defaults o, ?_⟩
  cases hscript : s.script o with
  | ok script =>
      have hrun := Scene.run_of_script defaults hscript
      exact ⟨hrun.only_writes hscript, hrun.only_prints hscript, hrun.only_executes hscript,
        fun _ _ => hrun.eq_execute hscript⟩
  | error failure =>
      rw [Scene.run_of_no_script defaults hscript]
      refine ⟨Or.inr ⟨?_, rfl⟩, Or.inr ⟨?_, rfl⟩, Or.inr ⟨?_, rfl⟩, ?_⟩
      · intro file ⟨⟨target, compiled⟩, _⟩
        cases hscript.symm.trans compiled
      · intro text ⟨⟨target, compiled⟩, _⟩
        cases hscript.symm.trans compiled
      · intro call ⟨target, compiled, _⟩
        cases hscript.symm.trans compiled
      · intro connection text ⟨target, compiled, _⟩
        cases hscript.symm.trans compiled

end Tablewright
