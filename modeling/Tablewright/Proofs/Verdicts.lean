/-
What a verdict says of the steps that made it.

A verdict holds the flag that a model is fit beside the list of objections, and
nothing but the steps keeps the two together.  Every step does: it starts over, or
it adds what it has to add behind what is there, and the flag falls with the first
objection.  A program that is merged runs from nothing and is merged whole, so it
adds in its place what it has added since it last started over itself; that it
starts over is nothing to the program around it.

So a verdict is told by the list of what was added since the last new start, with
every merged program written out in its place.  Merging is appending such lists,
which is why it is associative and why nothing is its identity.
-/
import Tablewright.Proofs.Checked
import Tablewright.Validation

namespace Tablewright.Validation

/-! ### Findings -/

/-- What a step adds to a verdict. -/
inductive Finding
  | objection (o : Objection)
  | remark (r : Remark)

namespace Finding

/-- The objection that a finding is. -/
def objection? : Finding → Option Objection
  | objection o => some o
  | remark _ => none

/-- The remark that a finding is. -/
def remark? : Finding → Option Remark
  | objection _ => none
  | remark r => some r

end Finding

namespace Verdict

/-- The flag says whether there are objections. -/
def Consistent (v : Verdict) : Prop :=
  v.valid = v.objections.isEmpty

/-- The verdict of these findings. -/
def ofFindings (findings : List Finding) : Verdict where
  valid := (findings.filterMap Finding.objection?).isEmpty
  objections := findings.filterMap Finding.objection?
  remarks := findings.filterMap Finding.remark?

variable {u v w : Verdict}

theorem consistent_ok : ok.Consistent := rfl

theorem consistent_ofFindings (findings : List Finding) : (ofFindings findings).Consistent := rfl

@[simp] theorem ofFindings_nil : ofFindings [] = ok := rfl

/-! ### Merging -/

theorem valid_merge (v w : Verdict) : (v.merge w).valid = (v.valid && w.valid) := by
  show (if w.valid then v.valid else false) = _
  cases w.valid <;> simp

@[simp] theorem ok_merge (v : Verdict) : ok.merge v = v := by
  obtain ⟨valid, objections, remarks⟩ := v
  cases valid <;> rfl

@[simp] theorem merge_ok (v : Verdict) : v.merge ok = v := by
  simp [merge, ok]

theorem merge_assoc (u v w : Verdict) : (u.merge v).merge w = u.merge (v.merge w) := by
  have hvalid : ((u.merge v).merge w).valid = (u.merge (v.merge w)).valid := by
    simp only [valid_merge, Bool.and_assoc]
  have hobjections : ((u.merge v).merge w).objections = (u.merge (v.merge w)).objections :=
    List.append_assoc ..
  have hremarks : ((u.merge v).merge w).remarks = (u.merge (v.merge w)).remarks :=
    List.append_assoc ..
  rw [mk.injEq]
  exact ⟨hvalid, hobjections, hremarks⟩

theorem Consistent.merge (hv : v.Consistent) (hw : w.Consistent) : (v.merge w).Consistent := by
  unfold Consistent at hv hw ⊢
  rw [valid_merge, hv, hw]
  show _ = (v.objections ++ w.objections).isEmpty
  cases v.objections <;> simp

/-- Findings one after the other are verdicts merged. -/
theorem ofFindings_append (before after : List Finding) :
    ofFindings (before ++ after) = (ofFindings before).merge (ofFindings after) := by
  have hvalid := (consistent_ofFindings before).merge (consistent_ofFindings after)
  unfold Consistent at hvalid
  rw [mk.injEq, hvalid]
  unfold ofFindings merge
  simp

/-! ### Adding -/

theorem addError_eq (v : Verdict) (o : Objection) :
    v.addError o = v.merge (ofFindings [.objection o]) := by
  simp [addError, merge, ofFindings, Finding.objection?, Finding.remark?]

theorem addRemark_eq (v : Verdict) (r : Remark) :
    v.addRemark r = v.merge (ofFindings [.remark r]) := by
  simp [addRemark, merge, ofFindings, Finding.objection?, Finding.remark?]

theorem ofObjections_eq (objections : List Objection) :
    ofObjections objections = ofFindings (objections.map .objection) := by
  have general : ∀ v : Verdict,
      objections.foldl addError v = v.merge (ofFindings (objections.map .objection)) := by
    induction objections with
    | nil => intro v; simp
    | cons o rest ih =>
        intro v
        rw [List.foldl_cons, ih, addError_eq, merge_assoc, ← ofFindings_append]
        rfl
  rw [ofObjections, general, ok_merge]

theorem ofRemarks_eq (remarks : List Remark) :
    ofRemarks remarks = ofFindings (remarks.map .remark) := by
  have general : ∀ v : Verdict,
      remarks.foldl addRemark v = v.merge (ofFindings (remarks.map .remark)) := by
    induction remarks with
    | nil => intro v; simp
    | cons r rest ih =>
        intro v
        rw [List.foldl_cons, ih, addRemark_eq, merge_assoc, ← ofFindings_append]
        rfl
  rw [ofRemarks, general, ok_merge]

@[simp] theorem objections_ofObjections (objections : List Objection) :
    (ofObjections objections).objections = objections := by
  rw [ofObjections_eq, ofFindings]
  simp [List.filterMap_map, Function.comp_def, Finding.objection?]

@[simp] theorem objections_ofRemarks (remarks : List Remark) :
    (ofRemarks remarks).objections = [] := by
  rw [ofRemarks_eq, ofFindings]
  simp [List.filterMap_map, Function.comp_def, Finding.objection?]

@[simp] theorem remarks_ofRemarks (remarks : List Remark) :
    (ofRemarks remarks).remarks = remarks := by
  rw [ofRemarks_eq, ofFindings]
  simp [List.filterMap_map, Function.comp_def, Finding.remark?]

/-! ### Results -/

/-- A verdict stands for its first objection. -/
theorem toResult_eq (v : Verdict) :
    v.toResult = barring (v.objections.head?.map Objection.failure) () := by
  unfold toResult
  cases v.objections <;> rfl

theorem toResult_eq_ok_iff : v.toResult = .ok () ↔ v.objections = [] := by
  rw [toResult_eq, barring_eq_ok_iff]
  simp

theorem Consistent.valid_iff (h : v.Consistent) : v.valid = true ↔ v.objections = [] := by
  rw [h, List.isEmpty_iff]

end Verdict

/-! ### Programs -/

/-- Whether a step starts over. -/
def Step.isReset : Step → Bool
  | .ok | .error _ => true
  | .addError _ | .addRemark _ | .merge _ => false

/-- The steps from the last one on that starts over, and all of them if none does. -/
def sinceReset : List Step → List Step
  | [] => []
  | step :: rest => if rest.any Step.isReset then sinceReset rest else step :: rest

mutual

/-- What a step adds.  A program that is merged adds in its place all that it added itself. -/
def Step.added : Step → List Finding
  | .ok => []
  | .error o | .addError o => [.objection o]
  | .addRemark r => [.remark r]
  | .merge steps => Step.addedAll steps

/-- What steps have added since they last started over. -/
def Step.addedAll : List Step → List Finding
  | [] => []
  | step :: rest =>
    if rest.any Step.isReset then Step.addedAll rest else step.added ++ Step.addedAll rest

end

/-- What stands since the last new start is all that counts, in its order. -/
theorem Step.addedAll_eq_flatMap (steps : List Step) :
    addedAll steps = (sinceReset steps).flatMap added := by
  induction steps with
  | nil => rfl
  | cons step rest ih =>
      unfold addedAll sinceReset
      by_cases hreset : rest.any Step.isReset = true
      · rw [if_pos hreset, if_pos hreset, ih]
      · have hall : sinceReset rest = rest := by
          cases rest with
          | nil => rfl
          | cons next others =>
              rw [List.any_cons, Bool.or_eq_true, not_or] at hreset
              exact if_neg hreset.2
        rw [if_neg hreset, if_neg hreset, ih, hall, List.flatMap_cons]

mutual

/-- **A step starts over, or adds what it has to add behind what is there.** -/
theorem Step.apply_eq (v : Verdict) : ∀ step : Step,
    step.apply v = if step.isReset then .ofFindings step.added
      else v.merge (.ofFindings step.added)
  | .ok => rfl
  | .error _ => rfl
  | .addError o => v.addError_eq o
  | .addRemark r => v.addRemark_eq r
  | .merge steps => by
      have hsteps := applyAll_eq .ok steps
      rw [Verdict.ok_merge, ite_self] at hsteps
      show v.merge (applyAll .ok steps) = v.merge (.ofFindings (addedAll steps))
      rw [hsteps]

/-- **So do steps one after the other.** -/
theorem Step.applyAll_eq (v : Verdict) : ∀ steps : List Step,
    applyAll v steps = if steps.any isReset then .ofFindings (addedAll steps)
      else v.merge (.ofFindings (addedAll steps))
  | [] => v.merge_ok.symm
  | step :: rest => by
      have hfirst := step.apply_eq v
      have hrest := applyAll_eq (step.apply v) rest
      rw [applyAll, hrest, List.any_cons, addedAll]
      by_cases hreset : rest.any isReset = true
      · simp [hreset]
      · rw [if_neg hreset, if_neg hreset, hfirst, Verdict.ofFindings_append]
        by_cases hstart : step.isReset = true
        · simp [hstart]
        · simp [hstart, hreset, Verdict.merge_assoc]

end

/-- A program that is run from nothing makes the verdict of what it has added. -/
theorem Step.applyAll_ok (steps : List Step) :
    applyAll .ok steps = .ofFindings (addedAll steps) := by
  rw [applyAll_eq, Verdict.ok_merge, ite_self]

/-- A step keeps the flag and the list together, whichever verdict it is taken from. -/
theorem Step.apply_consistent {v : Verdict} (h : v.Consistent) (step : Step) :
    (step.apply v).Consistent := by
  rw [step.apply_eq]
  by_cases hreset : step.isReset = true
  · rw [if_pos hreset]
    exact Verdict.consistent_ofFindings _
  · rw [if_neg hreset]
    exact h.merge (Verdict.consistent_ofFindings _)

theorem Step.applyAll_consistent {v : Verdict} (h : v.Consistent) (steps : List Step) :
    (applyAll v steps).Consistent := by
  induction steps generalizing v with
  | nil => exact h
  | cons step rest ih => exact ih (step.apply_consistent h)

/-! ### Rules -/

/-- Several rules find what each of them finds, one rule after the other, and a model is fit if it is
for each of them. -/
theorem validate_eq (asked : List Rule) (m : Model) :
    validate asked m = {
      valid := asked.all fun rule => (rule.check m).valid
      objections := asked.flatMap fun rule => (rule.check m).objections
      remarks := asked.flatMap fun rule => (rule.check m).remarks } := by
  have general : ∀ v : Verdict,
      asked.foldl (fun verdict rule => verdict.merge (rule.check m)) v = v.merge {
        valid := asked.all fun rule => (rule.check m).valid
        objections := asked.flatMap fun rule => (rule.check m).objections
        remarks := asked.flatMap fun rule => (rule.check m).remarks } := by
    induction asked with
    | nil => intro v; exact v.merge_ok.symm
    | cons rule rest ih =>
        intro v
        rw [List.foldl_cons, ih, Verdict.merge_assoc]
        congr 1
        rw [Verdict.mk.injEq, Verdict.valid_merge]
        simp [Verdict.merge]
  rw [validate, general, Verdict.ok_merge]

/-- Rules that keep the flag and the list together make verdicts that do. -/
theorem consistent_validate {asked : List Rule} {m : Model}
    (h : ∀ rule ∈ asked, (rule.check m).Consistent) : (validate asked m).Consistent := by
  have general : ∀ v : Verdict, v.Consistent →
      (asked.foldl (fun verdict rule => verdict.merge (rule.check m)) v).Consistent := by
    induction asked with
    | nil => intro v hv; exact hv
    | cons rule rest ih =>
        intro v hv
        rw [List.forall_mem_cons] at h
        exact ih h.2 _ (hv.merge h.1)
  exact general .ok Verdict.consistent_ok

/-- The built-in rules do. -/
theorem consistent_check {rule : Rule} (h : rule ∈ rules) (m : Model) :
    (rule.check m).Consistent := by
  have hobjections (objections : List Objection) :
      (Verdict.ofObjections objections).Consistent := by
    rw [Verdict.ofObjections_eq]
    exact Verdict.consistent_ofFindings _
  have hremarks (remarks : List Remark) : (Verdict.ofRemarks remarks).Consistent := by
    rw [Verdict.ofRemarks_eq]
    exact Verdict.consistent_ofFindings _
  simp only [rules, List.mem_cons, List.not_mem_nil, or_false] at h
  rcases h with rfl | rfl | rfl
  · exact hobjections _
  · exact hremarks _
  · exact hremarks _

/--
**A verdict is what its steps have added since they last started over.**  Whatever the program, its
flag is set exactly where it has no objection, and only then it comes to nothing; otherwise it comes
to its first objection.

Merging is associative and has the verdict of nothing as its identity, so the rules may be asked in
any grouping: what they find stands in the order in which they are asked.
-/
theorem verdict_exact :
    (∀ steps : List Step,
      ((Step.applyAll .ok steps).valid = true ↔ (Step.applyAll .ok steps).objections = []) ∧
      ((Step.applyAll .ok steps).toResult = .ok () ↔ (Step.applyAll .ok steps).objections = []) ∧
      (∀ o, (Step.applyAll .ok steps).objections.head? = some o →
        (Step.applyAll .ok steps).toResult = .error o.failure) ∧
      (Step.applyAll .ok steps).objections
        = ((sinceReset steps).flatMap Step.added).filterMap Finding.objection? ∧
      (Step.applyAll .ok steps).remarks
        = ((sinceReset steps).flatMap Step.added).filterMap Finding.remark?) ∧
    (∀ u v w : Verdict, (u.merge v).merge w = u.merge (v.merge w)) ∧
    (∀ v : Verdict, Verdict.ok.merge v = v ∧ v.merge .ok = v) ∧
    ∀ (asked : List Rule) (m : Model),
      (validate asked m).objections = asked.flatMap (fun rule => (rule.check m).objections) ∧
      (validate asked m).remarks = asked.flatMap (fun rule => (rule.check m).remarks) ∧
      ((validate asked m).valid = true ↔ ∀ rule ∈ asked, (rule.check m).valid = true) := by
  refine ⟨fun steps => ?_, Verdict.merge_assoc, fun v => ⟨v.ok_merge, v.merge_ok⟩,
    fun asked m => ?_⟩
  · have hconsistent : (Step.applyAll .ok steps).Consistent :=
      Step.applyAll_consistent Verdict.consistent_ok steps
    refine ⟨hconsistent.valid_iff, Verdict.toResult_eq_ok_iff, ?_, ?_, ?_⟩
    · intro o ho
      rw [Verdict.toResult_eq, ho]
      rfl
    · rw [Step.applyAll_ok, ← Step.addedAll_eq_flatMap]
      rfl
    · rw [Step.applyAll_ok, ← Step.addedAll_eq_flatMap]
      rfl
  · rw [validate_eq]
    exact ⟨rfl, rfl, List.all_eq_true⟩

/-- What was added before the program in the middle started over is lost to it alone. -/
example (o p : Objection) (r : Remark) :
    Step.applyAll .ok
        [.addRemark r, .ok, .addError o, .merge [.addRemark r, .error p, .addRemark r]]
      = { valid := false, objections := [o, p], remarks := [r] } := rfl

end Tablewright.Validation
