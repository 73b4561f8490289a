/-
The exit code of a run that was stopped.

Every stage has an exit code by the kind of its failures: 3 for a model that
cannot be compiled, 4 for the connection and what is done on it, 5 for a file or
a stream that cannot be read or written, and 1 for anything else.  A failure
tells its exit code by the class it belongs to, and a failure that is given a
context belongs to no class.  So a run has the exit code of the stage that
stopped it, but for the one stage whose failures are of a class and are given a
context: the reading of the standard input.
-/
import Tablewright.Proofs.Compile
import Tablewright.Proofs.Run.Stages

namespace Tablewright

open CommandLine

/-- The exit code by the kind of failure that a stage has. -/
def Stage.exitCode : Stage → Nat
  | compiling => 3
  | connection | execution => 4
  | configurationFile | modelFile | input | writing | printing => 5
  | configuration | format | model => 1

/-! ### The classes of failures -/

/-- With a context, a failure belongs to no class. -/
theorem Failure.exitCode_within (context : String) (f : Failure) : (f.within context).exitCode = 1 :=
  rfl

theorem Node.Untyped.exitCode_eq {address : ColumnAddress} {n : Node} {failure : Failure}
    (h : n.Untyped address failure) : failure.exitCode = 3 := by
  induction h with
  | bareList => rfl
  | enumeration => rfl
  | list _ _ ih => exact ih

/-- Compiling reports nothing but faults of the model. -/
theorem Model.exitCode_of_compile {m : Model} {settings : Settings} {failure : Failure}
    (h : m.compile settings = .error failure) : failure.exitCode = 3 := by
  rw [m.compile_eq, barring_eq_error_iff, compileFailure?_eq_some_iff] at h
  rcases h with hshape | ⟨-, htype⟩ | ⟨b, -, hpart⟩
  · obtain ⟨entity, hentity⟩ := hshape.offence
    cases hentity
    rfl
  · obtain ⟨entity, -, hentity⟩ := htype.offence
    obtain ⟨property, hproperty⟩ := hentity.offence
    exact hproperty.exitCode_eq
  · obtain ⟨table, htable⟩ := hpart.offence
    obtain ⟨column, hcolumn⟩ := htable.offence
    cases hcolumn with
    | name => rfl
    | type => rfl

theorem Connection.exitCode_of_ofObject {object : ConnectionObject} {failure : Failure}
    (h : ofObject object = .error failure) : failure.exitCode = 4 := by
  rw [ofObject, bind_eq_error_iff] at h
  rcases h with hhost | ⟨host, -, hempty⟩
  · obtain ⟨fault, -, rfl⟩ := mapError_eq_error_iff.mp hhost
    rfl
  · split at hempty
    · cases hempty
      rfl
    · cases hempty

theorem ConnectionParts.exitCode_of_ofString {text : String} {failure : Failure}
    (h : ofString text = .error failure) : failure.exitCode = 4 := by
  rw [ofString, bind_eq_error_iff] at h
  rcases h with hparse | ⟨⟨scheme, parts⟩, -, hscheme⟩
  · obtain ⟨fault, -, rfl⟩ := mapError_eq_error_iff.mp hparse
    rfl
  · dsimp only at hscheme
    split at hscheme
    · cases hscheme
    · cases hscheme
      rfl

/-- Resolving a target reports nothing but faults of the connection. -/
theorem Target.exitCode_of_resolve {t : Target} {defaults : ConnectionDefaults} {failure : Failure}
    (h : t.resolve defaults = .error failure) : failure.exitCode = 4 := by
  cases t with
  | url text =>
      change (ConnectionParts.ofString text >>= fun parts => parts.fill defaults) = _ at h
      rw [bind_eq_error_iff] at h
      rcases h with hparts | ⟨parts, -, hfill⟩
      · exact ConnectionParts.exitCode_of_ofString hparts
      · exact Connection.exitCode_of_ofObject hfill
  | parts parts => exact Connection.exitCode_of_ofObject h

theorem Configuration.exitCode_of_ofToml {path text : String} {failure : Failure}
    (h : ofToml text = .error failure) : (Run.inFile path failure).exitCode = 1 := by
  unfold ofToml at h
  split at h
  · cases h
    rfl
  · obtain ⟨fault, -, rfl⟩ := mapError_eq_error_iff.mp h
    rfl

theorem Model.exitCode_of_ofText {format : Format} {text : String} {failure : Failure}
    (h : ofText format text = .error failure) : failure.exitCode = 1 := by
  cases format with
  | json =>
      obtain ⟨fault, -, rfl⟩ := mapError_eq_error_iff.mp h
      rfl
  | yaml =>
      rw [ofText, ofYaml] at h
      split at h
      · cases h
        rfl
      · obtain ⟨fault, -, rfl⟩ := mapError_eq_error_iff.mp h
        rfl

theorem Scene.exitCode_of_format {o : Options} {path : String} {failure : Failure}
    (h : format o path = .error failure) : failure.exitCode = 1 := by
  unfold format at h
  cases hformat : o.format with
  | some format =>
      rw [hformat] at h
      cases h
  | none =>
      rw [hformat] at h
      change Format.ofPath path = .error failure at h
      unfold Format.ofPath at h
      split at h
      · cases h
      · cases h
        rfl

/-! ### The stages -/

namespace Scene

/-- Nothing but the connection is at fault when a script is executed. -/
def ReportsConnection (s : Scene) : Prop :=
  ∀ connection text failure, s.execute connection text = .error failure →
    (∃ reason, failure = .connect reason) ∨ ∃ reason, failure = .execution reason

theorem Unscripted.exitCode_eq {s : Scene} {o : Options} {stage : Stage} {failure : Failure}
    (h : Unscripted s o stage failure) :
    failure.exitCode = if stage = .input then 1 else stage.exitCode := by
  cases h with
  | configurationFile => rfl
  | configuration _ _ fault => exact Configuration.exitCode_of_ofToml fault
  | format _ _ fault => exact exitCode_of_format fault
  | modelFile => rfl
  | input => rfl
  | fileText _ _ _ _ fault => exact Model.exitCode_of_ofText fault
  | inputText => rfl
  | compiling _ _ fault => exact Model.exitCode_of_compile fault

theorem Stopped.exitCode_eq {s : Scene} {defaults : ConnectionDefaults} {o : Options}
    {stage : Stage} {failure : Failure} (reports : s.ReportsConnection)
    (h : Stopped s defaults o stage failure) :
    failure.exitCode = if stage = .input then 1 else stage.exitCode := by
  cases h with
  | unscripted unscripted => exact unscripted.exitCode_eq
  | writing => rfl
  | printing => rfl
  | connection _ _ _ fault => exact Target.exitCode_of_resolve fault
  | execution _ _ _ _ fault =>
      rcases reports _ _ _ fault with ⟨reason, rfl⟩ | ⟨reason, rfl⟩
      · rfl
      · rfl

end Scene

/--
**A run that is stopped has the exit code of the stage that stopped it, but for an unreadable
standard input, whose failure is given a context and has the exit code 1.**
-/
theorem exitCode_run (s : Scene) (reports : s.ReportsConnection) (defaults : ConnectionDefaults)
    (o : Options) (failure : Failure) (failed : (s.run defaults o).1 = .error failure) :
    (∃ stage, s.Stopped defaults o stage failure) ∧
    (∀ stage, s.Stopped defaults o stage failure →
      failure.exitCode = if stage = .input then 1 else stage.exitCode) ∧
    ∀ context, (failure.within context).exitCode = 1 := by
  refine ⟨(s.run_eq_error_iff defaults o failure).mp failed, ?_, ?_⟩
  · intro stage hstopped
    exact hstopped.exitCode_eq reports
  · intro context
    exact failure.exitCode_within context

/-- A scene in which nothing can be read. -/
def Scene.unreadable : Scene where
  file _ := .error "No such file or directory (os error 2)"
  input := .error "stream did not contain valid UTF-8"
  write _ _ := .ok ()
  print _ := .ok ()
  execute _ _ := .error (.connect "no server")

theorem Scene.unreadable_reportsConnection : unreadable.ReportsConnection := by
  intro connection text failure h
  cases h
  exact Or.inl ⟨"no server", rfl⟩

/-- A model file that cannot be read has the exit code of files and streams. -/
theorem exitCode_run_unreadable_file :
    Scene.unreadable.ReportsConnection ∧
    (Scene.unreadable.run {} { file := some "api.json", format := some .json }).1
      = .error (.fileRead "api.json" "No such file or directory (os error 2)") ∧
    (∃ stage, Scene.unreadable.Stopped {} { file := some "api.json", format := some .json } stage
      (.fileRead "api.json" "No such file or directory (os error 2)")) ∧
    ∀ stage, Scene.unreadable.Stopped {} { file := some "api.json", format := some .json } stage
      (.fileRead "api.json" "No such file or directory (os error 2)") →
      5 = if stage = .input then 1 else stage.exitCode := by
  have hrun : (Scene.unreadable.run {} { file := some "api.json", format := some .json }).1
      = .error (.fileRead "api.json" "No such file or directory (os error 2)") := by rfl
  obtain ⟨hstopped, hcode, -⟩ := exitCode_run Scene.unreadable Scene.unreadable_reportsConnection {}
    { file := some "api.json", format := some .json } _ hrun
  exact ⟨Scene.unreadable_reportsConnection, hrun, hstopped, hcode⟩

/-- A standard input that cannot be read does not have the exit code of files and streams. -/
theorem exitCode_unreadable_input :
    Scene.unreadable.ReportsConnection ∧
    (Scene.unreadable.run {} { dryRun := true }).1
      = .error (Scene.inputFault "stream did not contain valid UTF-8") ∧
    Scene.unreadable.Stopped {} { dryRun := true } .input
      (Scene.inputFault "stream did not contain valid UTF-8") ∧
    Stage.input.exitCode = 5 ∧
    (Scene.inputFault "stream did not contain valid UTF-8").exitCode = 1 := by
  have hstopped : Scene.unreadable.Stopped {} { dryRun := true } .input
      (Scene.inputFault "stream did not contain valid UTF-8") :=
    .unscripted (.input rfl rfl rfl)
  exact ⟨Scene.unreadable_reportsConnection, rfl, hstopped, rfl, rfl⟩

end Tablewright
