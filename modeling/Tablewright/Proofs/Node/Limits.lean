/-
Which whole numbers the check of a column admits.

A document bounds a number from below and from above, and each side has two names: a
limit, and an exclusive limit that either says that the limit itself is left out or is
a number of its own.  A node keeps one number for each side and whether it is left
out, so of two numbers on one side it keeps the exclusive one, and the other is lost.

What the check asks for is what is left.  It is all that the document asks for exactly
where nothing that was lost mattered: where the first number past an exclusive limit
keeps the limit beside it, or where no number is admitted at all.  Limits that are
doubles are not looked at here.
-/
import Tablewright.Proofs.Node.Conditions
import Tablewright.Proofs.Node.Reading
import Tablewright.Proofs.Sql.Comparison

namespace Tablewright

open Document

/-! ### What an object asks of a number -/

section Members

variable (members : List (String × Value))

/-- The object gives this whole number under the name. -/
def HasBound (name : String) (bound : Int) : Prop :=
  ∃ fits, (name, .scalar (.number (.whole bound fits))) ∈ members

/-- The object says yes under the name. -/
def HasFlag (name : String) : Prop :=
  (name, .scalar (.flag true)) ∈ members

/-- No limit of the object is a double. -/
def WholeBounds : Prop :=
  ∀ name ∈ ["minimum", "maximum", "exclusiveMinimum", "exclusiveMaximum"], ∀ x : Binary64,
    (name, .scalar (.number (.binary x))) ∉ members

/-- One side of a range: the names of the limit and of the exclusive limit, and whether they bound
from below. -/
structure Side where
  limit : String
  exclusive : String
  above : Bool

namespace Side

def lower : Side := ⟨"minimum", "exclusiveMinimum", true⟩

def upper : Side := ⟨"maximum", "exclusiveMaximum", false⟩

variable (side : Side)

/-- The number keeps every limit that the object gives on this side. -/
structure Satisfied (v : Int) : Prop where
  limit : ∀ b, HasBound members side.limit b → Sql.Comparison.Holds ⟨side.above, false, b⟩ v
  flagged : HasFlag members side.exclusive →
    ∀ b, HasBound members side.limit b → Sql.Comparison.Holds ⟨side.above, true, b⟩ v
  exclusive : ∀ b, HasBound members side.exclusive b → Sql.Comparison.Holds ⟨side.above, true, b⟩ v

/-- The number keeps the limits that are left on this side: the limit counts only where the
exclusive limit is not a number. -/
structure Enforced (v : Int) : Prop where
  limit : (∀ b, ¬ HasBound members side.exclusive b) →
    ∀ b, HasBound members side.limit b → Sql.Comparison.Holds ⟨side.above, false, b⟩ v
  flagged : HasFlag members side.exclusive →
    ∀ b, HasBound members side.limit b → Sql.Comparison.Holds ⟨side.above, true, b⟩ v
  exclusive : ∀ b, HasBound members side.exclusive b → Sql.Comparison.Holds ⟨side.above, true, b⟩ v

end Side

end Members

/-! ### Comparisons with whole numbers -/

/-- The comparison that a limit on numbers asks for, when it is whole. -/
def Condition.comparison? : Condition → Option Sql.Comparison
  | above (.whole bound _) strict => some ⟨true, strict, bound⟩
  | below (.whole bound _) strict => some ⟨false, strict, bound⟩
  | _ => none

theorem Condition.text_of_comparison? {condition : Condition} {c : Sql.Comparison}
    (h : condition.comparison? = some c) (column : String) :
    condition.text column = c.text column := by
  cases condition with
  | above bound strict =>
      cases bound with
      | whole value fits =>
          obtain rfl := Option.some.inj h
          cases strict <;> rfl
      | binary x => cases h
  | below bound strict =>
      cases bound with
      | whole value fits =>
          obtain rfl := Option.some.inj h
          cases strict <;> rfl
      | binary x => cases h
  | _ => cases h

theorem Condition.texts_eq {conditions : List Condition}
    (h : ∀ condition ∈ conditions, ∃ c, condition.comparison? = some c) (column : String) :
    conditions.map (·.text column) = (conditions.filterMap comparison?).map (·.text column) := by
  induction conditions with
  | nil => rfl
  | cons first rest ih =>
      rw [List.forall_mem_cons] at h
      obtain ⟨⟨c, hc⟩, hrest⟩ := h
      rw [List.map_cons, ih hrest, List.filterMap_cons_some hc, List.map_cons,
        text_of_comparison? hc]

namespace Facets

variable {v : Int}

theorem forall_comparison_side {limit : Option Number} {condition : Number → Condition}
    (comparison : Int → Sql.Comparison)
    (hwhole : ∀ b fits, (condition (.whole b fits)).comparison? = some (comparison b))
    (hbinary : ∀ x, (condition (.binary x)).comparison? = none) :
    (∀ c ∈ (limit.map condition).toList.filterMap Condition.comparison?, c.Holds v) ↔
      ∀ b fits, limit = some (.whole b fits) → (comparison b).Holds v := by
  rcases limit with _ | ⟨value, fits⟩ | x
  · simp
  · simp only [Option.map_some, Option.toList_some, List.filterMap_cons_some (hwhole value fits),
      List.filterMap_nil, List.forall_mem_singleton]
    constructor
    · intro hholds b _ hb
      cases hb
      exact hholds
    · intro hholds
      exact hholds value fits rfl
  · simp [hbinary]

/-- What the limits on a number ask for, one side after the other. -/
theorem forall_comparison_iff {f : Facets} :
    (∀ c ∈ f.onNumber.filterMap Condition.comparison?, c.Holds v) ↔
      (∀ b fits, f.minimum = some (.whole b fits) →
        Sql.Comparison.Holds ⟨true, f.exclusiveMinimum, b⟩ v) ∧
      (∀ b fits, f.maximum = some (.whole b fits) →
        Sql.Comparison.Holds ⟨false, f.exclusiveMaximum, b⟩ v) := by
  rw [onNumber, List.filterMap_append, List.forall_mem_append]
  exact and_congr
    (forall_comparison_side (fun b => ⟨true, f.exclusiveMinimum, b⟩)
      (fun _ _ => rfl) fun _ => rfl)
    (forall_comparison_side (fun b => ⟨false, f.exclusiveMaximum, b⟩)
      (fun _ _ => rfl) fun _ => rfl)

/-- Whole limits are comparisons with whole numbers. -/
theorem exists_comparison_of_mem {f : Facets}
    (hminimum : ∀ bound, f.minimum = some bound → ∃ b fits, bound = .whole b fits)
    (hmaximum : ∀ bound, f.maximum = some bound → ∃ b fits, bound = .whole b fits)
    {condition : Condition} (h : condition ∈ f.onNumber) :
    ∃ c, condition.comparison? = some c := by
  simp only [onNumber, List.mem_append, Option.mem_toList, Option.map_eq_some_iff] at h
  rcases h with ⟨bound, hbound, rfl⟩ | ⟨bound, hbound, rfl⟩
  · obtain ⟨b, fits, rfl⟩ := hminimum bound hbound
    exact ⟨_, rfl⟩
  · obtain ⟨b, fits, rfl⟩ := hmaximum bound hbound
    exact ⟨_, rfl⟩

end Facets

/-! ### One side of a range -/

namespace Side

variable {members : List (String × Value)} {side other : Side} {limit : Option Number}
  {exclusive : Option Node.Exclusive}

/-- A limit and an exclusive limit are what the object says on this side. -/
structure Holds (side : Side) (members : List (String × Value)) (limit : Option Number)
    (exclusive : Option Node.Exclusive) : Prop where
  limit : Says members side.limit (·.toTree.optional Tree.number) none limit
  exclusive : Says members side.exclusive (·.toTree.optional Node.Exclusive.read) none exclusive

namespace Holds

theorem hasBound_limit_iff (h : side.Holds members limit exclusive) {b : Int} :
    HasBound members side.limit b ↔ ∃ fits, limit = some (.whole b fits) :=
  exists_congr fun _ => (h.limit.eq_some_iff fun _ _ => Node.optional_number_iff).symm

theorem exclusive_eq_some_iff (h : side.Holds members limit exclusive) (e : Node.Exclusive) :
    exclusive = some e ↔ (side.exclusive, e.value) ∈ members :=
  h.exclusive.eq_some_iff fun _ _ => Node.optional_exclusive_iff

theorem hasBound_exclusive_iff (h : side.Holds members limit exclusive) {b : Int} :
    HasBound members side.exclusive b ↔ ∃ fits, exclusive = some (.limit (.whole b fits)) :=
  exists_congr fun fits => (h.exclusive_eq_some_iff (.limit (.whole b fits))).symm

theorem hasFlag_iff (h : side.Holds members limit exclusive) :
    HasFlag members side.exclusive ↔ exclusive = some (.flag true) :=
  (h.exclusive_eq_some_iff (.flag true)).symm

end Holds

/-- Without a number for the exclusive limit the limit counts, left out or not. -/
theorem enforced_iff_of_flag (strict : Bool) (hnone : ∀ b, ¬ HasBound members side.exclusive b)
    (hflag : HasFlag members side.exclusive ↔ strict = true) {v : Int} :
    side.Enforced members v ↔
      ∀ b, HasBound members side.limit b → Sql.Comparison.Holds ⟨side.above, strict, b⟩ v := by
  constructor
  · intro henforced
    cases strict with
    | true => exact henforced.flagged (hflag.mpr rfl)
    | false => exact henforced.limit hnone
  · intro hlimit
    constructor
    · exact fun _ b hb => (hlimit b hb).weaken
    · intro hraised
      obtain rfl := hflag.mp hraised
      exact hlimit
    · exact fun b hb => absurd hb (hnone b)

/-- A number for the exclusive limit is all that is left. -/
theorem Holds.enforced_iff_of_exclusive (h : side.Holds members limit exclusive) {e v : Int}
    (he : HasBound members side.exclusive e) :
    side.Enforced members v ↔ Sql.Comparison.Holds ⟨side.above, true, e⟩ v := by
  obtain ⟨fits, hfits⟩ := h.hasBound_exclusive_iff.mp he
  constructor
  · exact fun henforced => henforced.exclusive e he
  · intro hholds
    constructor
    · exact fun hnone => absurd he (hnone e)
    · intro hraised
      rw [h.hasFlag_iff.mp hraised] at hfits
      cases hfits
    · intro b hb
      obtain ⟨_, hb⟩ := h.hasBound_exclusive_iff.mp hb
      rw [hfits] at hb
      cases hb
      exact hholds

theorem Holds.exclusive_ne (h : side.Holds members limit exclusive)
    (hexclusive : ∀ x, (side.exclusive, .scalar (.number (.binary x))) ∉ members) (x : Binary64) :
    exclusive ≠ some (.limit (.binary x)) :=
  fun hx => hexclusive x ((h.exclusive_eq_some_iff (.limit (.binary x))).mp hx)

/-- What is left of whole limits is whole. -/
theorem Holds.exists_whole (h : side.Holds members limit exclusive)
    (hlimit : ∀ x, (side.limit, .scalar (.number (.binary x))) ∉ members)
    (hexclusive : ∀ x, (side.exclusive, .scalar (.number (.binary x))) ∉ members)
    {bound : Number} (hbound : (Node.fold limit exclusive).1 = some bound) :
    ∃ b fits, bound = .whole b fits := by
  cases bound with
  | whole b fits => exact ⟨b, fits, rfl⟩
  | binary x =>
      have hx : limit ≠ some (.binary x) := fun hx =>
        hlimit x ((h.limit.eq_some_iff fun _ _ => Node.optional_number_iff).mp hx)
      rcases exclusive with _ | raised | value
      · exact absurd hbound hx
      · exact absurd hbound hx
      · cases hbound
        exact absurd rfl (h.exclusive_ne hexclusive x)

/-- **The folded limit asks for the limits that are left.** -/
theorem Holds.enforced_iff (h : side.Holds members limit exclusive)
    (hwhole : ∀ x, exclusive ≠ some (.limit (.binary x))) {v : Int} :
    side.Enforced members v ↔ ∀ b fits, (Node.fold limit exclusive).1 = some (.whole b fits) →
      Sql.Comparison.Holds ⟨side.above, (Node.fold limit exclusive).2, b⟩ v := by
  have hlimit : ∀ strict, (∀ b, HasBound members side.limit b →
      Sql.Comparison.Holds ⟨side.above, strict, b⟩ v) ↔ ∀ b fits, limit = some (.whole b fits) →
        Sql.Comparison.Holds ⟨side.above, strict, b⟩ v := by
    simp [h.hasBound_limit_iff]
  rcases exclusive with _ | raised | ⟨e, fits⟩ | x
  · rw [enforced_iff_of_flag false (by simp [h.hasBound_exclusive_iff])
      (by simp [h.hasFlag_iff])]
    exact hlimit false
  · rw [enforced_iff_of_flag raised (by simp [h.hasBound_exclusive_iff])
      (by simp [h.hasFlag_iff])]
    exact hlimit raised
  · rw [h.enforced_iff_of_exclusive (h.hasBound_exclusive_iff.mpr ⟨fits, rfl⟩)]
    constructor
    · intro hholds b _ hb
      cases hb
      exact hholds
    · intro hholds
      exact hholds e fits rfl
  · exact absurd rfl (hwhole x)

/-- The first number past an exclusive limit. -/
def past (side : Side) (e : Int) : Int :=
  match side.above with
  | true => e + 1
  | false => e - 1

/-- The limit does not matter beside a number for the exclusive limit. -/
def Slack (side : Side) (members : List (String × Value)) : Prop :=
  ∀ b e, HasBound members side.limit b → HasBound members side.exclusive e →
    Sql.Comparison.Holds ⟨side.above, false, b⟩ (side.past e)

theorem holds_past (side : Side) (e : Int) :
    Sql.Comparison.Holds ⟨side.above, true, e⟩ (side.past e) := by
  unfold past
  cases side.above <;> simp only [Sql.Comparison.Holds] <;> omega

theorem past_first {e v : Int} (h : Sql.Comparison.Holds ⟨side.above, true, e⟩ v) :
    if side.above then side.past e ≤ v else v ≤ side.past e := by
  unfold past
  cases habove : side.above with
  | true =>
      rw [habove] at h
      rw [if_pos rfl]
      exact Int.add_one_le_of_lt h
  | false =>
      rw [habove] at h
      rw [if_neg (by decide)]
      exact Int.le_sub_one_of_lt h

theorem Satisfied.enforced {v : Int} (h : side.Satisfied members v) : side.Enforced members v :=
  ⟨fun _ => h.limit, h.flagged, h.exclusive⟩

/-- A number further inside keeps what is left on this side as well. -/
theorem Enforced.mono {v w : Int} (h : side.Enforced members v)
    (hw : if side.above then v ≤ w else w ≤ v) : side.Enforced members w :=
  ⟨fun hnone b hb => (h.limit hnone b hb).mono hw,
    fun hflag b hb => (h.flagged hflag b hb).mono hw,
    fun b hb => (h.exclusive b hb).mono hw⟩

/-- Where the lost limits do not matter, what is left is all that was given. -/
theorem Slack.satisfied (hslack : side.Slack members) {v : Int} (h : side.Enforced members v) :
    side.Satisfied members v where
  limit b hb := by
    by_cases hexclusive : ∃ e, HasBound members side.exclusive e
    · obtain ⟨e, he⟩ := hexclusive
      exact (hslack b e hb he).mono (past_first (h.exclusive e he))
    · exact h.limit (fun e he => hexclusive ⟨e, he⟩) b hb
  flagged := h.flagged
  exclusive := h.exclusive

/-- Where some number is admitted and what is left is all that was given, the lost limits do not
matter: the first number past the exclusive limit is admitted too. -/
theorem Holds.slack (h : side.Holds members limit exclusive) (hother : other.above = !side.above)
    {v : Int} (hside : side.Enforced members v) (hbeside : other.Enforced members v)
    (hall : ∀ w, side.Enforced members w → other.Enforced members w → side.Satisfied members w) :
    side.Slack members := by
  intro b e hb he
  have hpast : side.Enforced members (side.past e) :=
    (h.enforced_iff_of_exclusive he).mpr (side.holds_past e)
  have hfirst := past_first (hside.exclusive e he)
  have hinside : other.Enforced members (side.past e) := by
    refine hbeside.mono ?_
    rw [hother]
    cases habove : side.above with
    | true => simpa [habove] using hfirst
    | false => simpa [habove] using hfirst
  exact (hall _ hpast hinside).limit b hb

/-- **What is left on both sides is what was given exactly where nothing is admitted or the lost
limits do not matter.** -/
theorem agree_iff {minimum maximum : Option Number}
    {exclusiveMinimum exclusiveMaximum : Option Node.Exclusive}
    (hlower : lower.Holds members minimum exclusiveMinimum)
    (hupper : upper.Holds members maximum exclusiveMaximum) :
    (∀ v, lower.Enforced members v ∧ upper.Enforced members v ↔
        lower.Satisfied members v ∧ upper.Satisfied members v) ↔
      (∀ v, ¬ (lower.Enforced members v ∧ upper.Enforced members v)) ∨
        lower.Slack members ∧ upper.Slack members := by
  constructor
  · intro hagree
    by_cases hsome : ∃ v, lower.Enforced members v ∧ upper.Enforced members v
    · obtain ⟨v, hv, hv'⟩ := hsome
      refine .inr ⟨hlower.slack rfl hv hv' ?_, hupper.slack rfl hv' hv ?_⟩
      · exact fun w hw hw' => ((hagree w).mp ⟨hw, hw'⟩).1
      · exact fun w hw' hw => ((hagree w).mp ⟨hw, hw'⟩).2
    · exact .inl fun v hv => hsome ⟨v, hv⟩
  · rintro hslack v
    constructor
    · intro hv
      obtain ⟨hlow, hhigh⟩ := hslack.resolve_left fun hnone => hnone v hv
      exact ⟨hlow.satisfied hv.1, hhigh.satisfied hv.2⟩
    · exact fun hv => ⟨hv.1.enforced, hv.2.enforced⟩

end Side

namespace Node

section

variable {n : Node} {column : String}

/-- **A check of whole limits reads as the comparisons they ask for.** -/
theorem conjunction_check (hwhole : ∀ condition ∈ n.limits, ∃ c, condition.comparison? = some c)
    {expression : String} (h : n.check? column = some expression) :
    Sql.Conjunction column.toList expression.toList
      (n.limits.filterMap Condition.comparison?) := by
  obtain ⟨hlimits, rfl⟩ := check?_eq_some_iff.mp h
  rw [Condition.texts_eq hwhole]
  refine Sql.conjunction_join column fun hnone => ?_
  obtain ⟨first, rest, hcons⟩ := List.exists_cons_of_ne_nil hlimits
  have hfirst : first ∈ n.limits := hcons ▸ List.mem_cons_self
  obtain ⟨c, hc⟩ := hwhole first hfirst
  have hmem : c ∈ n.limits.filterMap Condition.comparison? :=
    List.mem_filterMap.mpr ⟨first, hfirst, hc⟩
  rw [hnone] at hmem
  cases hmem

theorem admits_check_iff (hwhole : ∀ condition ∈ n.limits, ∃ c, condition.comparison? = some c)
    {v : Int} :
    Sql.Admits column (n.check? column) v ↔
      ∀ c ∈ n.limits.filterMap Condition.comparison?, c.Holds v := by
  cases hcheck : n.check? column with
  | none =>
      rw [check?_eq_none_iff.mp hcheck]
      simp [Sql.Admits]
  | some expression =>
      exact Sql.admits_some_iff (conjunction_check hwhole hcheck)

end

section

variable {members : List (String × Value)} {n : Node}

/-- A node of numbers has the limits that its object gives on either side. -/
theorem exists_limits_of_read {type : String}
    (hread : read (Value.object members).toTree = .ok n)
    (htype : ("type", .scalar (.text type)) ∈ members)
    (hnumeric : type = "integer" ∨ type = "number") :
    ∃ minimum maximum exclusiveMinimum exclusiveMaximum,
      Side.lower.Holds members minimum exclusiveMinimum ∧
      Side.upper.Holds members maximum exclusiveMaximum ∧
      n.limits = Facets.onNumber
        { minimum := (fold minimum exclusiveMinimum).1
          exclusiveMinimum := (fold minimum exclusiveMinimum).2
          maximum := (fold maximum exclusiveMaximum).1
          exclusiveMaximum := (fold maximum exclusiveMaximum).2 } := by
  rw [Value.toTree_object] at hread
  obtain ⟨draft, rfl, hfrom⟩ := exists_draft_of_read hread
  have hdraft : draft.type = some type :=
    (hfrom.type.of_map.eq_some_iff fun _ _ => optional_text_iff).mpr htype
  have hn : draft.node.isNumeric = true := by
    rw [isNumeric_iff, draft.traits_node]
    show draft.type = _ ∨ draft.type = _
    rw [hdraft]
    simpa using hnumeric.symm
  refine ⟨_, _, _, _, ⟨hfrom.minimum.of_map, hfrom.exclusiveMinimum.of_map⟩,
    ⟨hfrom.maximum.of_map, hfrom.exclusiveMaximum.of_map⟩, ?_⟩
  rw [limits, if_pos hn, draft.traits_node]
  rfl

/--
**The check of a property of numbers reads in one way, and what it admits is what the limits ask
that are left on each side.**  This is what the object asks for exactly where nothing is admitted
or, on either side, the first whole number past the exclusive limit keeps the limit beside it.
-/
theorem check_admits_iff {type : String} (column : String)
    (hread : read (Value.object members).toTree = .ok n)
    (htype : ("type", .scalar (.text type)) ∈ members)
    (hnumeric : type = "integer" ∨ type = "number") (hwhole : WholeBounds members) :
    (∀ expression, n.check? column = some expression →
      ∃ comparisons, Sql.Conjunction column.toList expression.toList comparisons ∧
        ∀ other, Sql.Conjunction column.toList expression.toList other → other = comparisons) ∧
    (∀ v, Sql.Admits column (n.check? column) v ↔
      Side.lower.Enforced members v ∧ Side.upper.Enforced members v) ∧
    ((∀ v, Sql.Admits column (n.check? column) v ↔
        Side.lower.Satisfied members v ∧ Side.upper.Satisfied members v) ↔
      (∀ v, ¬ Sql.Admits column (n.check? column) v) ∨
      (∀ b e, HasBound members "minimum" b → HasBound members "exclusiveMinimum" e →
        b ≤ e + 1) ∧
      (∀ b e, HasBound members "maximum" b → HasBound members "exclusiveMaximum" e →
        e - 1 ≤ b)) := by
  obtain ⟨minimum, maximum, exclusiveMinimum, exclusiveMaximum, hlower, hupper, hlimits⟩ :=
    exists_limits_of_read hread htype hnumeric
  have hcomparison : ∀ condition ∈ n.limits, ∃ c, condition.comparison? = some c := by
    rw [hlimits]
    refine fun condition => Facets.exists_comparison_of_mem ?_ ?_
    · exact fun bound => hlower.exists_whole (hwhole _ (by decide)) (hwhole _ (by decide))
    · exact fun bound => hupper.exists_whole (hwhole _ (by decide)) (hwhole _ (by decide))
  have hadmits : ∀ v, Sql.Admits column (n.check? column) v ↔
      Side.lower.Enforced members v ∧ Side.upper.Enforced members v := by
    intro v
    rw [admits_check_iff hcomparison, hlimits, Facets.forall_comparison_iff,
      hlower.enforced_iff (hlower.exclusive_ne (hwhole _ (by decide))),
      hupper.enforced_iff (hupper.exclusive_ne (hwhole _ (by decide)))]
    rfl
  refine ⟨?_, hadmits, ?_⟩
  · intro expression hexpression
    have hconjunction := conjunction_check hcomparison hexpression
    exact ⟨_, hconjunction, fun other hother => hother.unique hconjunction⟩
  · simp only [hadmits]
    exact Side.agree_iff hlower hupper

/-- A whole number from above 17 to 120. -/
def adult : List (String × Value) := [
  ("type", .scalar (.text "integer")),
  ("minimum", .scalar (.number (.whole 17 (by decide)))),
  ("exclusiveMinimum", .scalar (.flag true)),
  ("maximum", .scalar (.number (.whole 120 (by decide))))]

theorem wholeBounds_adult : WholeBounds adult := by
  intro name _ x hmember
  simp [adult] at hmember

theorem check_admits_iff_adult : ∃ n, read (Value.object adult).toTree = .ok n ∧
    WholeBounds adult ∧ n.check? "age" = some "age > 17 AND age <= 120" ∧
    ∀ v, Sql.Admits "age" (n.check? "age") v ↔
      Side.lower.Satisfied adult v ∧ Side.upper.Satisfied adult v := by
  have hread : ∃ n, read (Value.object adult).toTree = .ok n := ⟨_, rfl⟩
  obtain ⟨n, hn⟩ := hread
  refine ⟨n, hn, wholeBounds_adult, ?_, ?_⟩
  · obtain rfl := Except.ok.inj hn
    decide
  · have htype : ("type", .scalar (.text "integer")) ∈ adult := by
      simp [adult]
    refine (check_admits_iff "age" hn htype (.inl rfl) wholeBounds_adult).2.2.mpr (.inr ⟨?_, ?_⟩)
    · rintro b e - ⟨fits, he⟩
      simp [adult] at he
    · rintro b e - ⟨fits, he⟩
      simp [adult] at he

/-- At least 10, and more than 5. -/
def doublyBounded : List (String × Value) := [
  ("type", .scalar (.text "integer")),
  ("minimum", .scalar (.number (.whole 10 (by decide)))),
  ("exclusiveMinimum", .scalar (.number (.whole 5 (by decide))))]

/-- Only the exclusive limit is left of the two: the number 7 is admitted. -/
theorem check_admits_below_minimum : ∃ n, read (Value.object doublyBounded).toTree = .ok n ∧
    n.check? "age" = some "age > 5" ∧ Sql.Admits "age" (n.check? "age") 7 ∧
    ¬ Side.lower.Satisfied doublyBounded 7 := by
  have hcheck : ∀ n, read (Value.object doublyBounded).toTree = .ok n →
      n.check? "age" = some "age > 5" := by
    rintro n hn
    obtain rfl := Except.ok.inj hn
    decide
  refine ⟨_, rfl, hcheck _ rfl, ?_, ?_⟩
  · rw [hcheck _ rfl]
    have hread : Sql.Conjunction "age".toList "age > 5".toList [⟨true, true, 5⟩] :=
      .last (by decide)
    exact (Sql.admits_some_iff hread).mpr (by decide)
  · intro h
    have hten := h.limit 10 ⟨by decide, by simp [doublyBounded, Side.lower]⟩
    exact absurd hten (by decide)

end

end Node

end Tablewright
