/-
Which objects a record can be read from.

Members are stored one after the other, and storing stops at a member whose field was
given already or whose value the field does not take.  Names that no field has stop
nothing.  So an object is taken exactly where none of the names of the fields is given
twice and each of them, where it is given, has a value that its field takes; the order
of the members does not matter, and neither do the members between.

The other half, what the fields hold then, is in `Proofs/Document/Fields.lean`.
-/
import Tablewright.Proofs.Document.Fields

namespace Tablewright.Document

variable {V δ : Type}

/-- The field is stored from exactly these values, whatever was stored before. -/
def Field.Takes (field : Field V δ) (takes : V → Prop) : Prop :=
  ∀ value draft, (∃ stored, field.store value draft = .ok stored) ↔ takes value

/-- A field that reads its value and puts it into the draft takes what can be read. -/
theorem Field.takes_put {α : Type} {name : String} {aliases : List String} {read : V → Read α}
    {put : α → δ → δ} :
    Field.Takes ⟨name, aliases, fun value draft => do return put (← read value) draft⟩
      fun value => ∃ a, read value = .ok a := by
  intro value draft
  constructor
  · rintro ⟨stored, hstore⟩
    obtain ⟨a, ha, -⟩ := bind_eq_ok_iff.mp hstore
    exact ⟨a, ha⟩
  · rintro ⟨a, ha⟩
    exact ⟨put a draft, bind_eq_ok_iff.mpr ⟨a, ha, rfl⟩⟩

namespace Layout

variable {layout : Layout V δ} {skip : V → Read Unit} {key : Key} {value : V}
  {rest : List (Key × V)} {seen : List Nat} {draft : δ}

/-- What a key names is one of the fields. -/
theorem Names.exists_field {position : Nat} (h : layout.Names key position) :
    ∃ field, layout.fields[position]? = some field := by
  obtain ⟨label, -, hposition⟩ := h
  cases label with
  | name text =>
      obtain ⟨hlt, -⟩ := List.findIdx?_eq_some_iff_getElem.mp (Except.ok.inj hposition)
      exact ⟨_, List.getElem?_eq_getElem hlt⟩
  | index given =>
      have hfound : (if given < layout.fields.length then some given else none) = some position :=
        Except.ok.inj hposition
      split at hfound
      · rename_i hlt
        obtain rfl := Option.some.inj hfound
        exact ⟨_, List.getElem?_eq_getElem hlt⟩
      · cases hfound
  | other => cases hposition

theorem storeMembers_of_names {position : Nat} {field : Field V δ}
    (hnames : layout.Names key position) (hfield : layout.fields[position]? = some field) :
    layout.storeMembers skip ((key, value) :: rest) seen draft
      = (layout.checkFresh seen position >>= fun _ => field.store value draft >>= fun next =>
          layout.storeMembers skip rest (position :: seen) next) := by
  obtain ⟨label, hlabel, hposition⟩ := hnames
  rw [storeMembers, hlabel, ok_bind, hposition, ok_bind]
  dsimp only
  rw [hfield]

theorem storeMembers_of_not_names (hknown : layout.Knows key)
    (hnone : ∀ position, ¬ layout.Names key position) :
    layout.storeMembers skip ((key, value) :: rest) seen draft
      = (skip value >>= fun _ => layout.storeMembers skip rest seen draft) := by
  obtain ⟨label, found, hlabel, hfound⟩ := hknown
  rw [storeMembers, hlabel, ok_bind, hfound, ok_bind]
  cases found with
  | none => rfl
  | some position => exact absurd ⟨label, hlabel, hfound⟩ (hnone position)

theorem checkFresh_eq_ok_iff {position : Nat} :
    layout.checkFresh seen position = .ok () ↔ position ∉ seen := by
  unfold checkFresh
  by_cases hseen : position ∈ seen
  · rw [if_pos (by simpa using hseen)]
    exact iff_of_false (by rintro ⟨⟩) (not_not_intro hseen)
  · rw [if_neg (by simpa using hseen)]
    exact iff_of_true rfl hseen

/-- A member that names a field is stored where the field is new and takes its value, and the members
behind it then are. -/
theorem storeMembers_cons_isOk_iff {position : Nat} {field : Field V δ} {takes : V → Prop}
    {allowed : Prop} (hnames : layout.Names key position)
    (hfield : layout.fields[position]? = some field) (htakes : field.Takes takes)
    (hrest : ∀ next, (∃ result, layout.storeMembers skip rest (position :: seen) next = .ok result) ↔
      allowed) :
    (∃ result, layout.storeMembers skip ((key, value) :: rest) seen draft = .ok result) ↔
      position ∉ seen ∧ takes value ∧ allowed := by
  rw [storeMembers_of_names hnames hfield, ← htakes value draft]
  constructor
  · rintro ⟨result, h⟩
    obtain ⟨_, hfresh, h⟩ := bind_eq_ok_iff.mp h
    obtain ⟨next, hnext, h⟩ := bind_eq_ok_iff.mp h
    exact ⟨checkFresh_eq_ok_iff.mp hfresh, ⟨next, hnext⟩, (hrest next).mp ⟨result, h⟩⟩
  · rintro ⟨hfresh, ⟨next, hnext⟩, hallowed⟩
    obtain ⟨result, hresult⟩ := (hrest next).mpr hallowed
    exact ⟨result, by rw [checkFresh_eq_ok_iff.mpr hfresh, ok_bind, hnext, ok_bind, hresult]⟩

/-- **Members are stored exactly where none of them names a field that was given already or that
another one names, and each field takes its value.** -/
theorem storeMembers_isOk_iff {takes : Nat → V → Prop}
    (htakes : ∀ (position : Nat) (field : Field V δ), layout.fields[position]? = some field →
      field.Takes (takes position)) {members : List (Key × V)}
    (hknown : ∀ member ∈ members, layout.Knows member.1)
    (hskip : ∀ member ∈ members, skip member.2 = .ok ()) :
    (∃ result, layout.storeMembers skip members seen draft = .ok result) ↔
      (∀ member ∈ members, ∀ position, layout.Names member.1 position →
        position ∉ seen ∧ takes position member.2) ∧
      members.Pairwise fun first second => ∀ position, layout.Names first.1 position →
        ¬ layout.Names second.1 position := by
  induction members generalizing seen draft with
  | nil => exact iff_of_true ⟨_, rfl⟩ ⟨by simp, .nil⟩
  | cons member rest ih =>
      obtain ⟨key, value⟩ := member
      rw [List.forall_mem_cons] at hknown hskip
      rw [List.forall_mem_cons, List.pairwise_cons]
      by_cases hnamed : ∃ position, layout.Names key position
      · obtain ⟨position, hnames⟩ := hnamed
        obtain ⟨field, hfield⟩ := hnames.exists_field
        rw [storeMembers_cons_isOk_iff hnames hfield (htakes position field hfield)
          fun next => ih hknown.2 hskip.2]
        -- What is asked of the members behind differs by the position that they now may not name.
        constructor
        · rintro ⟨hfresh, htaken, hrest, hpairwise⟩
          refine ⟨⟨?_, ?_⟩, ?_, hpairwise⟩
          · intro other hother
            obtain rfl := hother.eq hnames
            exact ⟨hfresh, htaken⟩
          · intro member hmember other hother
            obtain ⟨hlater, htaken⟩ := hrest member hmember other hother
            exact ⟨fun hseen => hlater (List.mem_cons_of_mem _ hseen), htaken⟩
          · intro member hmember other hother hagain
            obtain rfl := hother.eq hnames
            exact (hrest member hmember other hagain).1 List.mem_cons_self
        · rintro ⟨⟨hfirst, hrest⟩, hdistinct, hpairwise⟩
          obtain ⟨hfresh, htaken⟩ := hfirst position hnames
          refine ⟨hfresh, htaken, ?_, hpairwise⟩
          intro member hmember other hother
          obtain ⟨hunseen, htaken⟩ := hrest member hmember other hother
          refine ⟨fun hmem => ?_, htaken⟩
          rcases List.mem_cons.mp hmem with rfl | hseen
          · exact hdistinct member hmember other hnames hother
          · exact hunseen hseen
      · have hnone : ∀ position, ¬ layout.Names key position := not_exists.mp hnamed
        rw [storeMembers_of_not_names hknown.1 hnone, hskip.1, ok_bind, ih hknown.2 hskip.2]
        simp [hnone]

theorem knows_text (layout : Layout V δ) (text : String) :
    layout.Knows (.ofText (pure text)) :=
  ⟨.name text, _, rfl, rfl⟩

/-- **An object is read exactly where none of the names of the fields is given twice, and each one
that is given has a value that its field takes.** -/
theorem Plain.read_object_isOk_iff {layout : Layout Tree δ} (plain : layout.Plain) {empty : δ}
    {takes : String → Tree → Prop} (htakes : ∀ field ∈ layout.fields, field.Takes (takes field.name))
    {members : List (String × Tree)} (hskip : ∀ member ∈ members, member.2.skip = .ok ()) :
    (∃ stored, layout.read empty (Tree.object members) = .ok stored) ↔
      ((members.map Prod.fst).filter (· ∈ layout.fields.map Field.name)).Nodup ∧
      ∀ member ∈ members, member.1 ∈ layout.fields.map Field.name → takes member.1 member.2 := by
  have hread : (∃ stored, layout.read empty (Tree.object members) = .ok stored) ↔
      ∃ result, layout.storeMembers Tree.skip (keyed members) [] empty = .ok result := by
    constructor
    · rintro ⟨stored, h⟩
      obtain ⟨given, hgiven⟩ := read_object_eq_ok_iff.mp h
      exact ⟨(given, stored), hgiven⟩
    · rintro ⟨⟨given, stored⟩, hgiven⟩
      exact ⟨stored, read_object_eq_ok_iff.mpr ⟨given, hgiven⟩⟩
  have hfield : ∀ (position : Nat) (field : Field Tree δ), layout.fields[position]? = some field →
      field.Takes fun value => ∀ name,
        (layout.fields.map Field.name)[position]? = some name → takes name value := by
    intro position field hfield value draft
    rw [htakes field (List.mem_of_getElem? hfield) value draft, List.getElem?_map, hfield]
    simp
  have hvalues : (∀ member ∈ keyed members, ∀ position, layout.Names member.1 position →
      position ∉ [] ∧ ∀ name, (layout.fields.map Field.name)[position]? = some name →
        takes name member.2) ↔
      ∀ member ∈ members, member.1 ∈ layout.fields.map Field.name → takes member.1 member.2 := by
    rw [keyed, List.forall_mem_map]
    refine forall₂_congr fun member _ => ?_
    simp only [plain.names_text_iff, List.mem_iff_getElem?]
    constructor
    · rintro h ⟨position, hname⟩
      exact (h position hname).2 _ hname
    · intro h position hname
      refine ⟨by simp, fun name hagain => ?_⟩
      rw [hname] at hagain
      obtain rfl := Option.some.inj hagain
      exact h ⟨position, hname⟩
  have hnames : ((keyed members).Pairwise fun first second => ∀ position,
      layout.Names first.1 position → ¬ layout.Names second.1 position) ↔
      ((members.map Prod.fst).filter (· ∈ layout.fields.map Field.name)).Nodup := by
    rw [keyed, List.pairwise_map, List.Nodup, List.pairwise_filter, List.pairwise_map]
    refine List.Pairwise.iff fun first second => ?_
    simp only [plain.names_text_iff, decide_eq_true_eq, List.mem_iff_getElem?]
    constructor
    · rintro h ⟨position, hfirst⟩ - hsame
      exact h position hfirst (hsame ▸ hfirst)
    · intro h position hfirst hsecond
      rw [hfirst] at hsecond
      exact h ⟨position, hfirst⟩ ⟨position, hsecond ▸ hfirst⟩ (Option.some.inj hsecond)
  have hknown : ∀ member ∈ keyed members, layout.Knows member.1 :=
    List.forall_mem_map.mpr fun _ _ => knows_text layout _
  have hpassed : ∀ member ∈ keyed members, member.2.skip = .ok () := List.forall_mem_map.mpr hskip
  rw [hread, storeMembers_isOk_iff hfield hknown hpassed, hvalues, hnames, and_comm]

end Layout

end Tablewright.Document
