/-
Validation and drawing ask the same question.

That an entity is an object is asked twice: by a rule, which goes over the whole
model and collects its objections, and by the drawing of a blueprint, which stops
at whatever it meets first.  A model that passes the rule is never refused for the
shape of an entity when it is drawn.  Where the rule objects, the drawing stops as
well, at the same entity and with the same words, unless it has met a property
without a type by then.

Of the rules there are only this one objects.  So whatever rules are asked, in
whatever order and however often, the verdict depends on whether it is among them.
-/
import Tablewright.Proofs.Compile

namespace Tablewright

/-! ### Verdicts of several rules -/

namespace Validation

/-- Of the rules there are only one objects to anything. -/
theorem eq_entityType_or_silent {rule : Rule} (h : rule ∈ rules) :
    rule = entityType ∨ rule ≠ entityType ∧ ∀ m, (rule.check m).objections = [] := by
  have hname : entityProperties ≠ entityType ∧ identifiers ≠ entityType :=
    ⟨fun h => absurd (congrArg Rule.name h) (by decide),
      fun h => absurd (congrArg Rule.name h) (by decide)⟩
  simp only [rules, List.mem_cons, List.not_mem_nil, or_false] at h
  rcases h with rfl | rfl | rfl
  · exact Or.inl rfl
  · exact Or.inr ⟨hname.1, fun _ => Verdict.objections_ofRemarks _⟩
  · exact Or.inr ⟨hname.2, fun _ => Verdict.objections_ofRemarks _⟩

/-- The first objection of several rules is the first one of the rule about shapes, wherever that
stands, and there is none without it. -/
theorem head?_objections {asked : List Rule} (h : ∀ rule ∈ asked, rule ∈ rules) (m : Model) :
    (entityType ∈ asked →
      (validate asked m).objections.head? = (entityType.check m).objections.head?) ∧
    (entityType ∉ asked → (validate asked m).objections.head? = none) := by
  rw [validate_eq, List.head?_flatMap]
  constructor
  · intro hasked
    cases hfirst : (entityType.check m).objections.head? with
    | none =>
        rw [List.findSome?_eq_none_iff]
        intro rule hrule
        rcases eq_entityType_or_silent (h rule hrule) with rfl | ⟨-, hsilent⟩
        · exact hfirst
        · rw [hsilent, List.head?_nil]
    | some o =>
        have hsome : (asked.findSome? fun rule => (rule.check m).objections.head?).isSome := by
          rw [List.findSome?_isSome_iff]
          exact ⟨entityType, hasked, by rw [hfirst]; rfl⟩
        obtain ⟨found, hfound⟩ := Option.isSome_iff_exists.mp hsome
        obtain ⟨rule, hrule, hhead⟩ := List.exists_of_findSome?_eq_some hfound
        rw [hfound, ← hhead, ← hfirst]
        rcases eq_entityType_or_silent (h rule hrule) with rfl | ⟨-, hsilent⟩
        · rfl
        · rw [hsilent] at hhead
          exact absurd hhead (by simp)
  · intro hasked
    rw [List.findSome?_eq_none_iff]
    intro rule hrule
    rcases eq_entityType_or_silent (h rule hrule) with rfl | ⟨-, hsilent⟩
    · exact absurd hrule hasked
    · rw [hsilent, List.head?_nil]

/-- Several rules come to what the rule about shapes comes to, or to nothing without it. -/
theorem toResult_validate {asked : List Rule} (h : ∀ rule ∈ asked, rule ∈ rules) (m : Model) :
    (entityType ∈ asked → (validate asked m).toResult = m.validate) ∧
    (entityType ∉ asked → (validate asked m).toResult = .ok ()) := by
  have hfatal : (validate fatal m).objections.head? = (entityType.check m).objections.head? :=
    (head?_objections (by simp [fatal, rules]) m).1 (by simp [fatal])
  obtain ⟨hwith, hwithout⟩ := head?_objections h m
  constructor
  · intro hasked
    rw [Model.validate, Verdict.toResult_eq, Verdict.toResult_eq, hwith hasked, hfatal]
  · intro hasked
    rw [Verdict.toResult_eq, hwithout hasked]
    rfl

end Validation

/-! ### Failures of both -/

/-- A property without a type is no entity of another shape. -/
theorem Node.Untyped.ne_notAnObject {address : ColumnAddress} {n : Node} {failure : Failure}
    (h : n.Untyped address failure) (name found : String) : failure ≠ .notAnObject name found := by
  induction h with
  | bareList => nofun
  | enumeration => nofun
  | list _ _ ih => exact ih

/-- The properties without a type are those whose mapping to a type fails. -/
theorem Node.untyped_iff {address : ColumnAddress} {n : Node} {failure : Failure} :
    n.Untyped address failure ↔
      ∀ log, ∃ rest, (n.sqlType address).from log = (.error failure, rest) := by
  rw [← typeFailure?_eq_some_iff, (n.sqlType_gives address).fails_iff]

namespace Model

variable {m : Model} {settings : Settings}

theorem validate_eq_ok_iff : m.validate = .ok () ↔ m.Shaped := by
  rw [validate_eq, barring_eq_ok_iff, shapeFailure?_eq_none_iff]
  simp

theorem validate_eq_error_iff {failure : Failure} :
    m.validate = .error failure ↔ First Misshapen m.entities failure := by
  rw [validate_eq, barring_eq_error_iff,
    findSome?_eq_some_iff_first Blueprint.shapeFailure?_eq_some_iff]

/-- Validation fails at the first entity that is not an object. -/
theorem exists_of_validate_eq_error {failure : Failure} (h : m.validate = .error failure) :
    ∃ before entity after, m.entities = before ++ entity :: after ∧
      (∀ other ∈ before, other.2.isObject = true) ∧ entity.2.isObject = false ∧
      failure = .notAnObject entity.1 entity.2.shape := by
  obtain ⟨before, entity, after, hentities, hbefore, hentity⟩ := validate_eq_error_iff.mp h
  refine ⟨before, entity, after, hentities, ?_, ?_⟩
  · rintro ⟨name, node⟩ hother
    show node.isObject = true
    cases hobject : node.isObject with
    | true => rfl
    | false => exact absurd (.intro hobject) (hbefore (name, node) hother _)
  · cases hentity with
    | intro hobject => exact ⟨hobject, rfl⟩

/-- The drawing of a model comes to the first entity that is not an object only past the types of
those before it. -/
theorem blueprintFailure?_of_misshapen (settings : Settings)
    {before after : List (String × Node)} {entity : String × Node}
    (hentities : m.entities = before ++ entity :: after)
    (hbefore : ∀ other ∈ before, other.2.isObject = true) (hentity : entity.2.isObject = false) :
    m.blueprintFailure? settings = (before.findSome? (Blueprint.typeFailure? settings)).or
      (some (.notAnObject entity.1 entity.2.shape)) := by
  have hshape : Blueprint.entityFailure? settings entity
      = some (.notAnObject entity.1 entity.2.shape) := by
    rw [Blueprint.entityFailure?, Blueprint.shapeFailure?, if_neg (by simp [hentity])]
    rfl
  rw [← Blueprint.entitiesFailure?_of_shaped hbefore, blueprintFailure?, hentities]
  unfold Blueprint.entitiesFailure?
  rw [List.findSome?_append, List.findSome?_cons, hshape]

/-- Drawing the model fails with this failure, whatever was warned of before. -/
def FailsToDraw (m : Model) (settings : Settings) (failure : Failure) : Prop :=
  ∀ log, ∃ rest, (m.blueprint settings).from log = (.error failure, rest)

theorem failsToDraw_iff {failure : Failure} :
    m.FailsToDraw settings failure ↔ m.blueprintFailure? settings = some failure :=
  (m.blueprint_gives settings).fails_iff failure

/-- Where every entity is an object, no failure is about the shape of one. -/
theorem blueprint_ne_notAnObject (shaped : m.Shaped) (log rest : Log) (name found : String) :
    (m.blueprint settings).from log ≠ (.error (.notAnObject name found), rest) := by
  intro hrun
  have htype := (m.blueprint_gives settings).failure_of_from hrun
  rw [blueprintFailure?_of_shaped shaped,
    findSome?_eq_some_iff_first (Blueprint.typeFailure?_eq_some_iff settings)] at htype
  obtain ⟨entity, -, hentity⟩ := htype.offence
  obtain ⟨property, hproperty⟩ := hentity.offence
  exact hproperty.ne_notAnObject name found rfl

/-- The drawing fails at the first entity that is not an object, or at a type before it. -/
theorem failsToDraw_of_misshapen (settings : Settings) {before after : List (String × Node)}
    {entity : String × Node} (hentities : m.entities = before ++ entity :: after)
    (hbefore : ∀ other ∈ before, other.2.isObject = true) (hentity : entity.2.isObject = false) :
    (∃ mapping, First (Mistyped settings) before mapping ∧ m.FailsToDraw settings mapping) ∨
    ((∀ other ∈ before, ∀ mapping, ¬ Mistyped settings other mapping) ∧
      m.FailsToDraw settings (.notAnObject entity.1 entity.2.shape)) := by
  have hstop := blueprintFailure?_of_misshapen settings hentities hbefore hentity
  cases htypes : before.findSome? (Blueprint.typeFailure? settings) with
  | some mapping =>
      rw [htypes, Option.some_or] at hstop
      rw [findSome?_eq_some_iff_first (Blueprint.typeFailure?_eq_some_iff settings)] at htypes
      exact Or.inl ⟨mapping, htypes, failsToDraw_iff.mpr hstop⟩
  | none =>
      rw [htypes, Option.none_or] at hstop
      refine Or.inr ⟨?_, failsToDraw_iff.mpr hstop⟩
      intro other hother mapping hmistyped
      have hsome := (Blueprint.typeFailure?_eq_some_iff settings other mapping).mpr hmistyped
      rw [List.findSome?_eq_none_iff.mp htypes other hother] at hsome
      exact absurd hsome (by simp)

end Model

/-- Whether a model is valid by several rules depends on the rule about shapes alone. -/
theorem Validation.valid_validate_iff {asked : List Rule} (h : ∀ rule ∈ asked, rule ∈ rules)
    (m : Model) : (validate asked m).valid = true ↔ entityType ∉ asked ∨ m.Shaped := by
  obtain ⟨hwith, hwithout⟩ := toResult_validate h m
  have hconsistent := consistent_validate fun rule hrule => consistent_check (h rule hrule) m
  rw [hconsistent.valid_iff, ← Verdict.toResult_eq_ok_iff]
  by_cases hmem : entityType ∈ asked
  · rw [hwith hmem, Model.validate_eq_ok_iff]
    simp [hmem]
  · simp [hwithout hmem, hmem]

/--
**A valid model is not refused for a shape when it is drawn; an invalid one is refused for the same
entity, or for a property without a type before it.  And no rule but the one about shapes decides
whether a model is valid.**

A property is asked for its type only where its column takes it from there, so nothing is missing in
an entity that settles the type of its columns itself.
-/
theorem validate_blueprint (m : Model) (settings : Settings) :
    (m.validate = .ok () → ∀ log rest name found,
      (m.blueprint settings).from log ≠ (.error (.notAnObject name found), rest)) ∧
    (∀ failure, m.validate = .error failure →
      ∃ before entity after, m.entities = before ++ entity :: after ∧
        (∀ other ∈ before, other.2.isObject = true) ∧ entity.2.isObject = false ∧
        failure = .notAnObject entity.1 entity.2.shape ∧
        ((∃ mapping, First (Mistyped settings) before mapping ∧ m.FailsToDraw settings mapping) ∨
          ((∀ other ∈ before, ∀ mapping, ¬ Mistyped settings other mapping) ∧
            m.FailsToDraw settings failure))) ∧
    (∀ (address : ColumnAddress) (property : Node) (mapping : Failure),
      property.Untyped address mapping ↔
        ∀ log, ∃ rest, (property.sqlType address).from log = (.error mapping, rest)) ∧
    ∀ asked : List Validation.Rule, (∀ rule ∈ asked, rule ∈ Validation.rules) →
      ((Validation.validate asked m).valid = true ↔
        Validation.entityType ∉ asked ∨ ∀ entity ∈ m.entities, entity.2.isObject = true) ∧
      (Validation.entityType ∈ asked → (Validation.validate asked m).toResult = m.validate) := by
  refine ⟨?_, ?_, fun _ _ _ => Node.untyped_iff, ?_⟩
  · intro hvalid log rest name found
    exact Model.blueprint_ne_notAnObject (Model.validate_eq_ok_iff.mp hvalid) log rest name found
  · intro failure hfailure
    obtain ⟨before, entity, after, hentities, hbefore, hentity, rfl⟩ :=
      Model.exists_of_validate_eq_error hfailure
    exact ⟨before, entity, after, hentities, hbefore, hentity, rfl,
      Model.failsToDraw_of_misshapen settings hentities hbefore hentity⟩
  · intro asked hasked
    exact ⟨Validation.valid_validate_iff hasked m, (Validation.toResult_validate hasked m).1⟩

/-- A basket whose items are not described, and behind it an entity that is only a text. -/
def undescribedBasket : Model :=
  Model.ofList [
    ("basket", .object [("items", .bareList { type := some "array" })] {} {}),
    ("label", .scalar none { type := some "string" })]

example : undescribedBasket.validate = .error (.notAnObject "label" "string") ∧
    (undescribedBasket.blueprint {}).from [] = (.error (.missingItems "api.basket.items"), []) :=
  ⟨rfl, rfl⟩

end Tablewright
