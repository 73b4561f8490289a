/-
What a computation that may warn and may fail comes to.

Neither the value of such a computation nor its failure depends on the warnings
that were given before it.  So it comes to three things: the failure that stops
it, if there is one; the value it has where nothing stops it; and the warnings it
adds on the way.  `Gives` says which three they are, from every log at once, and
the lemmas here compute them for each way in which computations are put together.

The value is a total function of the input even where a failure stops the run:
`barring` joins the two.  That is what lets a traversal be read as a plain `map`
beside the search for its first failure, with no induction left for later proofs.
-/
import Tablewright.Warning

namespace Tablewright

variable {α β : Type}

/-! ### A value and what bars it -/

/-- The value, unless a failure bars it. -/
def barring (failure? : Option Failure) (value : α) : Except Failure α :=
  match failure? with
  | none => .ok value
  | some failure => .error failure

@[simp] theorem barring_none (value : α) : barring none value = .ok value := rfl

@[simp] theorem barring_some (failure : Failure) (value : α) :
    barring (some failure) value = .error failure := rfl

theorem barring_eq_ok_iff {failure? : Option Failure} {value other : α} :
    barring failure? value = .ok other ↔ failure? = none ∧ value = other := by
  cases failure? <;> simp

theorem barring_eq_error_iff {failure? : Option Failure} {value : α} {failure : Failure} :
    barring failure? value = .error failure ↔ failure? = some failure := by
  cases failure? <;> simp

/-- What stops the first of two steps stops both. -/
theorem bind_barring {first second : Option Failure} {a : α} {b : β}
    {next : α → Except Failure β} (h : next a = barring second b) :
    (barring first a >>= next) = barring (first.or second) b := by
  cases first with
  | none => exact h
  | some failure => rfl

/-- A traversal is a `map`, barred by the first failure in the order of the list. -/
theorem mapM_barring {action : α → Except Failure β} {failure? : α → Option Failure}
    {value : α → β} (h : ∀ a, action a = barring (failure? a) (value a)) (l : List α) :
    l.mapM action = barring (l.findSome? failure?) (l.map value) := by
  induction l with
  | nil => rfl
  | cons a rest ih =>
      rw [List.mapM_cons, h a, List.findSome?_cons, List.map_cons]
      cases failure? a with
      | none =>
          rw [ih]
          cases rest.findSome? failure? <;> rfl
      | some failure => rfl

/-! ### Warnings on the way -/

namespace Log

/-- The warnings that come up behind a step, which are none where the step fails. -/
def past (failure? : Option Failure) (log : Log) : Log :=
  if failure?.isSome then [] else log

@[simp] theorem past_none (log : Log) : past none log = log := rfl

@[simp] theorem past_some (failure : Failure) (log : Log) : past (some failure) log = [] := rfl

/-- The warnings of every step up to the first one that fails, its own included. -/
def upTo (failure? : α → Option Failure) (added : α → Log) : List α → Log
  | [] => []
  | a :: rest => added a ++ past (failure? a) (upTo failure? added rest)

/-- Steps that do not fail give all their warnings before the steps behind them give any. -/
theorem upTo_append {failure? : α → Option Failure} (added : α → Log) {before : List α}
    (h : ∀ a ∈ before, failure? a = none) (rest : List α) :
    upTo failure? added (before ++ rest) = before.flatMap added ++ upTo failure? added rest := by
  induction before with
  | nil => rfl
  | cons a before ih =>
      have hbefore := ih fun other hother => h other (List.mem_cons_of_mem a hother)
      rw [List.cons_append, upTo, h a List.mem_cons_self, past_none, hbefore, List.flatMap_cons,
        List.append_assoc]

/-- Steps that do not fail give all their warnings. -/
theorem upTo_of_none {failure? : α → Option Failure} (added : α → Log) {l : List α}
    (h : ∀ a ∈ l, failure? a = none) : upTo failure? added l = l.flatMap added := by
  have hall := upTo_append added h []
  rw [List.append_nil, upTo, List.append_nil] at hall
  exact hall

/-- A warning on the way comes from one of the steps. -/
theorem exists_of_mem_upTo {failure? : α → Option Failure} {added : α → Log} {l : List α}
    {w : Warning} (h : w ∈ upTo failure? added l) : ∃ a ∈ l, w ∈ added a := by
  induction l with
  | nil => exact absurd h (by simp [upTo])
  | cons a rest ih =>
      rcases List.mem_append.mp h with hfirst | hrest
      · exact ⟨a, by simp, hfirst⟩
      · cases hfailure : failure? a with
        | none =>
            rw [hfailure, past_none] at hrest
            obtain ⟨other, hother, hw⟩ := ih hrest
            exact ⟨other, by simp [hother], hw⟩
        | some failure =>
            rw [hfailure, past_some] at hrest
            exact absurd hrest (by simp)

end Log

/-- From every log, the action gives this value and adds these warnings. -/
def Warned.Gives (action : Warned α) (value : α) (added : Log) : Prop :=
  ∀ log, action.run log = (value, log ++ added)

namespace Warned

theorem gives_pure (a : α) : Gives (pure a) a [] := by
  intro log
  rw [List.append_nil]
  rfl

theorem gives_warn (kind : WarningKind) (target message : String) :
    Gives (warn kind target message) () [⟨kind, target, message⟩] :=
  fun _ => rfl

theorem gives_bind {action : Warned α} {next : α → Warned β} {a : α} {b : β} {first second : Log}
    (ha : Gives action a first) (hb : Gives (next a) b second) :
    Gives (action >>= next) b (first ++ second) := by
  intro log
  rw [StateT.run_bind, ha log]
  show (next a).run (log ++ first) = _
  rw [hb, List.append_assoc]

end Warned

/-- From every log, the action gives this value, unless this failure stops it, and adds these
warnings. -/
def Checked.Gives (action : Checked α) (failure? : Option Failure) (value : α) (added : Log) :
    Prop :=
  ∀ log, action.from log = (barring failure? value, log ++ added)

namespace Checked

theorem gives_pure (a : α) : Gives (pure a) none a [] := by
  intro log
  rw [List.append_nil]
  rfl

theorem gives_throw (failure : Failure) (a : α) : Gives (throw failure) (some failure) a [] := by
  intro log
  rw [List.append_nil]
  rfl

theorem gives_liftM {action : Warned α} {a : α} {added : Log} (h : Warned.Gives action a added) :
    Gives (liftM action) none a added := by
  intro log
  have hrun := h log
  show ((Except.ok <$> action).run log : Except Failure α × Log) = _
  rw [StateT.run_map, hrun]
  rfl

theorem gives_liftExcept {result : Except Failure α} {failure? : Option Failure} {a : α}
    (h : result = barring failure? a) : Gives (liftExcept result) failure? a [] := by
  subst h
  cases failure? with
  | none => exact gives_pure a
  | some failure => exact gives_throw failure a

/-- The second step counts, with its failure and its warnings, where the first one succeeds. -/
theorem gives_bind {action : Checked α} {next : α → Checked β} {a : α} {b : β}
    {first second : Option Failure} {before after : Log}
    (ha : Gives action first a before) (hb : Gives (next a) second b after) :
    Gives (action >>= next) (first.or second) b (before ++ Log.past first after) := by
  intro log
  have hbind : (action >>= next).from log
      = match action.from log with
        | (.ok value, rest) => (next value).from rest
        | (.error failure, rest) => (.error failure, rest) := by
    simp only [Checked.from, ExceptT.run_bind, StateT.run_bind]
    rcases action.run.run log with ⟨_ | _, rest⟩ <;> rfl
  rw [hbind, ha log]
  cases first with
  | none =>
      show (next a).from (log ++ before) = _
      rw [hb, List.append_assoc]
      rfl
  | some failure => simp

/-- A step that always succeeds leaves the failure and the value to the second one. -/
theorem gives_bind_of_none {action : Checked α} {next : α → Checked β} {a : α} {b : β}
    {failure? : Option Failure} {before after : Log}
    (ha : Gives action none a before) (hb : Gives (next a) failure? b after) :
    Gives (action >>= next) failure? b (before ++ after) :=
  gives_bind ha hb

/-- Only the value is changed by a step that is nothing but a function. -/
theorem gives_map {action : Checked α} {a : α} {failure? : Option Failure} {added : Log}
    (h : Gives action failure? a added) (g : α → β) :
    Gives (do return g (← action)) failure? (g a) added := by
  have hbind : Gives (action >>= fun a => pure (g a)) (failure?.or none) (g a)
      (added ++ Log.past failure? []) := gives_bind h (gives_pure (g a))
  cases failure? <;> simpa using hbind

/-- A traversal is a `map` that stops, with its warnings, at the first failure. -/
theorem gives_mapM {action : α → Checked β} {failure? : α → Option Failure} {value : α → β}
    {added : α → Log} (h : ∀ a, Gives (action a) (failure? a) (value a) (added a)) (l : List α) :
    Gives (l.mapM action) (l.findSome? failure?) (l.map value) (Log.upTo failure? added l) := by
  induction l with
  | nil => exact gives_pure []
  | cons a rest ih =>
      rw [List.mapM_cons]
      have hrest := gives_map ih fun others => value a :: others
      have hall : Gives (action a >>= fun first => do return first :: (← rest.mapM action))
          _ (value a :: rest.map value) _ := gives_bind (h a) hrest
      rw [List.findSome?_cons]
      cases hfail : failure? a <;> rw [hfail] at hall <;> simpa [Log.upTo, hfail] using hall

/-- A traversal that can only warn is a `map`, and gives all its warnings. -/
theorem gives_mapM_liftM {action : α → Warned β} {value : α → β} {added : α → Log}
    (h : ∀ a, Warned.Gives (action a) (value a) (added a)) (l : List α) :
    Gives (l.mapM fun a => (action a : Checked β)) none (l.map value) (l.flatMap added) := by
  have hall := gives_mapM (fun a => gives_liftM (h a)) l
  have hfailure : l.findSome? (fun _ => (none : Option Failure)) = none := by simp
  rw [hfailure, Log.upTo_of_none added fun _ _ => rfl] at hall
  exact hall

/-- A computation gives one value at most. -/
theorem Gives.eq_of_from {action : Checked α} {failure? : Option Failure} {value found : α}
    {added log rest : Log} (h : Gives action failure? value added)
    (hrun : action.from log = (.ok found, rest)) : failure? = none ∧ value = found := by
  rw [h log] at hrun
  exact barring_eq_ok_iff.mp (congrArg Prod.fst hrun)

/-- A computation is stopped by one failure at most. -/
theorem Gives.failure_of_from {action : Checked α} {failure? : Option Failure} {value : α}
    {added log rest : Log} {failure : Failure} (h : Gives action failure? value added)
    (hrun : action.from log = (.error failure, rest)) : failure? = some failure := by
  rw [h log] at hrun
  exact barring_eq_error_iff.mp (congrArg Prod.fst hrun)

/-- What stops a computation stops it from every log. -/
theorem Gives.fails_iff {action : Checked α} {failure? : Option Failure} {value : α} {added : Log}
    (h : Gives action failure? value added) (failure : Failure) :
    (∀ log, ∃ rest, action.from log = (.error failure, rest)) ↔ failure? = some failure := by
  constructor
  · intro hfails
    obtain ⟨rest, hrun⟩ := hfails []
    exact h.failure_of_from hrun
  · intro hfailure log
    exact ⟨log ++ added, by rw [h log, hfailure, barring_some]⟩

/-- Behind a computation that is not stopped, the log has its warnings at the end. -/
theorem Gives.log_of_from {action : Checked α} {failure? : Option Failure} {value found : α}
    {added log rest : Log} (h : Gives action failure? value added)
    (hrun : action.from log = (.ok found, rest)) : rest = log ++ added := by
  rw [h log] at hrun
  exact (congrArg Prod.snd hrun).symm

end Checked

end Tablewright
