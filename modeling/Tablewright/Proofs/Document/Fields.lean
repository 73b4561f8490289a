/-
What the fields of a record hold once it is read.

A draft takes its members one after the other, and a reader of one field sees only
the member that names it: no other member changes what the field holds, and a second
one of the same name is refused.  So a record that is read holds, in each field, what
the only member of that name says, and what the empty record holds where there is
none.

`Sets` and `Keeps` are the two things to know of the fields: one of them sets the
part of the draft that is looked at, and all others leave it as it is.  From these the
induction goes over the members, with two cases for a field that was given already
and one that was not.  `Says` is what comes of it, in terms of the members alone.
-/
import Tablewright.Document.Record
import Tablewright.Proofs.Document.Value
import Tablewright.Proofs.Entries
import Tablewright.Proofs.Result

namespace Tablewright.Document

variable {V δ β : Type}

/-- What named members say of one part of a record: it holds what every member of this name is read
as, and what is held by default where there is no such member. -/
structure Says (members : List (String × V)) (name : String) (read : V → Read β) (default held : β) :
    Prop where
  given : ∀ value, (name, value) ∈ members → read value = .ok held
  absent : (∀ value, (name, value) ∉ members) → held = default

namespace Says

variable {members : List (String × V)} {name : String} {read : V → Read β} {default held : β}

/-- What is said with what `view` shows of each part is said with that. -/
theorem of_map {W : Type} {view : V → W} {read : W → Read β}
    (h : Says (members.map fun member => (member.1, view member.2)) name read default held) :
    Says members name (fun value => read (view value)) default held where
  given value hvalue := h.given _ (List.mem_map.mpr ⟨(name, value), hvalue, rfl⟩)
  absent hnone := h.absent fun shown hshown => by
    obtain ⟨⟨other, value⟩, hvalue, hsame⟩ := List.mem_map.mp hshown
    obtain ⟨rfl, -⟩ := Prod.mk.inj hsame
    exact hnone value hvalue

/-- The record holds something other than the default only where a member of the name says so. -/
theorem exists_given (h : Says members name read default held) (hne : held ≠ default) :
    ∃ value, (name, value) ∈ members ∧ read value = .ok held :=
  Classical.byContradiction fun hnone =>
    hne (h.absent fun value hvalue => hnone ⟨value, hvalue, h.given value hvalue⟩)

/-- What is held was read from the first member of the name, or there is none. -/
theorem lookup_cases (h : Says members name read default held) :
    members.lookup name = none ∧ held = default ∨
      ∃ value, members.lookup name = some value ∧ read value = .ok held := by
  cases hlookup : members.lookup name with
  | none =>
      refine .inl ⟨rfl, h.absent fun value hvalue => ?_⟩
      simpa [hvalue] using List.lookup_eq_none_iff.mp hlookup (name, value)
  | some value => exact .inr ⟨value, rfl, h.given value (mem_of_lookup hlookup)⟩

/-- A part that is read as something from one value only holds it where the members give that
value. -/
theorem eq_some_iff {α : Type} {read : V → Read (Option α)} {held : Option α}
    (h : Says members name read none held) {a : α} {value : V}
    (hread : ∀ v, (name, v) ∈ members → (read v = .ok (some a) ↔ v = value)) :
    held = some a ↔ (name, value) ∈ members := by
  constructor
  · rintro rfl
    obtain ⟨v, hv, hsome⟩ := h.exists_given (by simp)
    exact (hread v hv).mp hsome ▸ hv
  · intro hmember
    have hgiven := h.given value hmember
    rw [(hread value hmember).mpr rfl] at hgiven
    exact (Except.ok.inj hgiven).symm

end Says

theorem MapEnd.read_eq_ok_iff {ending : MapEnd} : ending.read = .ok () ↔ ending = .closed := by
  constructor
  · intro h
    cases ending with
    | closed => rfl
    | afterKey key fault =>
        obtain ⟨_, -, h⟩ := bind_eq_ok_iff.mp h
        cases h
    | _ => cases h
  · rintro rfl
    rfl

/-- What the field stores, `get` finds as it was read. -/
def Field.Sets (field : Field V δ) (get : δ → β) (read : V → Read β) : Prop :=
  ∀ value draft stored, field.store value draft = .ok stored → read value = .ok (get stored)

/-- What the field stores changes nothing that `get` finds. -/
def Field.Keeps (field : Field V δ) (get : δ → β) : Prop :=
  ∀ value draft stored, field.store value draft = .ok stored → get stored = get draft

/-- The field sets one part of the draft, and each of the others leaves it. -/
structure Layout.Holds (layout : Layout V δ) (position : Nat) (get : δ → β)
    (read : V → Read β) : Prop where
  sets : ∃ field, layout.fields[position]? = some field ∧ field.Sets get read
  keeps : ∀ other field, layout.fields[other]? = some field → other ≠ position → field.Keeps get

/-- A field that reads its value and puts it into the draft sets what it puts there. -/
theorem Field.sets_put {α : Type} {name : String} {aliases : List String} {read : V → Read α}
    {put : α → δ → δ} {get : δ → α} (h : ∀ a draft, get (put a draft) = a) :
    Field.Sets ⟨name, aliases, fun value draft => do return put (← read value) draft⟩ get read := by
  intro value draft stored hstore
  obtain ⟨a, ha, hput⟩ := bind_eq_ok_iff.mp hstore
  obtain rfl := Except.ok.inj hput
  rw [h]
  exact ha

theorem Field.keeps_put {α : Type} {name : String} {aliases : List String} {read : V → Read α}
    {put : α → δ → δ} {get : δ → β} (h : ∀ a draft, get (put a draft) = get draft) :
    Field.Keeps ⟨name, aliases, fun value draft => do return put (← read value) draft⟩ get := by
  intro value draft stored hstore
  obtain ⟨a, -, hput⟩ := bind_eq_ok_iff.mp hstore
  obtain rfl := Except.ok.inj hput
  exact h a draft

namespace Layout

variable {layout : Layout V δ} {skip : V → Read Unit} {members : List (Key × V)}
  {seen given : List Nat} {draft stored : δ}

theorem holds_of_eraseIdx {position : Nat} {field : Field V δ} {get : δ → β} {read : V → Read β}
    (hfield : layout.fields[position]? = some field) (sets : field.Sets get read)
    (keeps : ∀ other ∈ layout.fields.eraseIdx position, other.Keeps get) :
    layout.Holds position get read where
  sets := ⟨field, hfield, sets⟩
  keeps other field hother hne :=
    keeps field (List.mem_eraseIdx_iff_getElem?.mpr ⟨other, hne, hother⟩)

/-- The key names the field at this position. -/
def Names (layout : Layout V δ) (key : Key) (position : Nat) : Prop :=
  ∃ label, key.direct = .ok label ∧ layout.position? label = .ok (some position)

/-- The key names a field or is passed over. -/
def Knows (layout : Layout V δ) (key : Key) : Prop :=
  ∃ label found, key.direct = .ok label ∧ layout.position? label = .ok found

/-- Every field has one name, and no two fields have the same. -/
structure Plain (layout : Layout V δ) : Prop where
  aliases : ∀ field ∈ layout.fields, field.aliases = []
  distinct : (layout.fields.map Field.name).Nodup

theorem Plain.names_text_iff (plain : layout.Plain) {text : String} {position : Nat} :
    layout.Names (.ofText (pure text)) position ↔
      (layout.fields.map Field.name)[position]? = some text := by
  have htest : ∀ field ∈ layout.fields,
      (field.name == text || field.aliases.contains text) = true ↔ field.name = text := by
    intro field hfield
    simp [plain.aliases field hfield]
  have hnames : layout.Names (.ofText (pure text)) position ↔ layout.fields.findIdx?
      (fun field => field.name == text || field.aliases.contains text) = some position := by
    constructor
    · rintro ⟨label, hlabel, hposition⟩
      obtain rfl := Except.ok.inj hlabel
      exact Except.ok.inj hposition
    · exact fun h => ⟨.name text, rfl, congrArg Except.ok h⟩
  rw [hnames, List.findIdx?_eq_some_iff_getElem, List.getElem?_eq_some_iff]
  constructor
  · rintro ⟨hlt, hname, -⟩
    refine ⟨by simpa using hlt, ?_⟩
    rw [List.getElem_map]
    exact (htest _ (List.getElem_mem hlt)).mp hname
  · rintro ⟨hlength, hname⟩
    have hlt : position < layout.fields.length := by simpa using hlength
    rw [List.getElem_map] at hname
    refine ⟨hlt, (htest _ (List.getElem_mem hlt)).mpr hname, fun before hbefore hagain => ?_⟩
    have hsame : layout.fields[before].name = text :=
      (htest _ (List.getElem_mem _)).mp hagain
    have hdistinct := List.pairwise_iff_getElem.mp plain.distinct before position
      (by simp; omega) hlength hbefore
    rw [List.getElem_map, List.getElem_map, hsame, hname] at hdistinct
    exact hdistinct rfl

/-- The ways in which the members of a map are stored. -/
theorem storeMembers_cases {key : Key} {value : V} {rest : List (Key × V)}
    (h : layout.storeMembers skip ((key, value) :: rest) seen draft = .ok (given, stored)) :
    layout.Knows key ∧ (∀ position, ¬ layout.Names key position) ∧
        layout.storeMembers skip rest seen draft = .ok (given, stored) ∨
      ∃ position, layout.Names key position ∧ position ∉ seen ∧
        (layout.fields[position]? = none ∧
            layout.storeMembers skip rest seen draft = .ok (given, stored) ∨
          ∃ field next, layout.fields[position]? = some field ∧
            field.store value draft = .ok next ∧
            layout.storeMembers skip rest (position :: seen) next = .ok (given, stored)) := by
  rw [storeMembers, bind_eq_ok_iff] at h
  obtain ⟨label, hlabel, h⟩ := h
  rw [bind_eq_ok_iff] at h
  obtain ⟨found, hfound, h⟩ := h
  cases found with
  | none =>
      obtain ⟨-, -, h⟩ := bind_eq_ok_iff.mp h
      refine .inl ⟨⟨label, none, hlabel, hfound⟩, ?_, h⟩
      rintro position ⟨another, hanother, hposition⟩
      rw [hlabel] at hanother
      obtain rfl := Except.ok.inj hanother
      rw [hfound] at hposition
      cases hposition
  | some position =>
      obtain ⟨_, hfresh, h⟩ := bind_eq_ok_iff.mp h
      have hnew : position ∉ seen := by
        intro hmem
        rw [checkFresh, if_pos (by simpa using hmem)] at hfresh
        cases hfresh
      refine .inr ⟨position, ⟨label, hlabel, hfound⟩, hnew, ?_⟩
      cases hfield : layout.fields[position]? with
      | none =>
          rw [hfield] at h
          exact .inl ⟨rfl, h⟩
      | some field =>
          rw [hfield] at h
          obtain ⟨next, hnext, h⟩ := bind_eq_ok_iff.mp h
          exact .inr ⟨field, next, rfl, hnext, h⟩

theorem Names.eq {key : Key} {first second : Nat} (hfirst : layout.Names key first)
    (hsecond : layout.Names key second) : first = second := by
  obtain ⟨label, hlabel, hfirst⟩ := hfirst
  obtain ⟨another, hanother, hsecond⟩ := hsecond
  rw [hlabel] at hanother
  obtain rfl := Except.ok.inj hanother
  rw [hfirst] at hsecond
  exact Option.some.inj (Except.ok.inj hsecond)

theorem Names.knows {key : Key} {position : Nat} (h : layout.Names key position) :
    layout.Knows key := by
  obtain ⟨label, hlabel, hposition⟩ := h
  exact ⟨label, some position, hlabel, hposition⟩

/-- All keys of a map that is stored can be read. -/
theorem knows_of_storeMembers
    (h : layout.storeMembers skip members seen draft = .ok (given, stored)) :
    ∀ member ∈ members, layout.Knows member.1 := by
  induction members generalizing seen draft with
  | nil => simp
  | cons member rest ih =>
      rw [List.forall_mem_cons]
      rcases storeMembers_cases h with ⟨hknown, -, h⟩ | ⟨_, hnames, -, ⟨-, h⟩ | ⟨_, _, -, -, h⟩⟩
      · exact ⟨hknown, ih h⟩
      · exact ⟨hnames.knows, ih h⟩
      · exact ⟨hnames.knows, ih h⟩

/-- A map is read where its members are stored and it ends as it should. -/
theorem ofMembers_eq_ok_iff {empty : δ} {ending : MapEnd} :
    layout.ofMembers skip empty members ending = .ok stored ↔
      ending = .closed ∧ ∃ given, layout.storeMembers skip members [] empty = .ok (given, stored) := by
  rw [ofMembers, bind_eq_ok_iff]
  constructor
  · rintro ⟨⟨given, draft⟩, hdraft, h⟩
    have hclose : ∃ done, ending.read = .ok done ∧ (pure draft : Read δ) = .ok stored := by
      dsimp only at h
      split at h
      · obtain ⟨label, -, h⟩ := bind_eq_ok_iff.mp h
        obtain ⟨found, -, h⟩ := bind_eq_ok_iff.mp h
        cases found with
        | none => exact bind_eq_ok_iff.mp h
        | some position =>
            obtain ⟨_, -, h⟩ := bind_eq_ok_iff.mp h
            exact bind_eq_ok_iff.mp h
      · exact bind_eq_ok_iff.mp h
    obtain ⟨_, hending, h⟩ := hclose
    obtain rfl := Except.ok.inj h
    exact ⟨MapEnd.read_eq_ok_iff.mp hending, given, hdraft⟩
  · rintro ⟨rfl, given, hgiven⟩
    exact ⟨(given, stored), hgiven, rfl⟩

theorem read_object_eq_ok_iff {layout : Layout Tree δ} {empty : δ} {members : List (String × Tree)} :
    layout.read empty (Tree.object members) = .ok stored ↔
      ∃ given, layout.storeMembers Tree.skip (keyed members) [] empty = .ok (given, stored) := by
  have hread : layout.read empty (Tree.object members)
      = layout.ofMembers Tree.skip empty (keyed members) .closed := rfl
  rw [hread, ofMembers_eq_ok_iff]
  exact and_iff_right rfl

/-- A field that was given is not given again, and keeps what it holds. -/
theorem Holds.get_of_seen {position : Nat} {get : δ → β} {read : V → Read β}
    (holds : layout.Holds position get read) (hseen : position ∈ seen)
    (h : layout.storeMembers skip members seen draft = .ok (given, stored)) :
    get stored = get draft ∧ ∀ member ∈ members, ¬ layout.Names member.1 position := by
  induction members generalizing seen draft with
  | nil =>
      obtain ⟨-, rfl⟩ := Prod.mk.inj (Except.ok.inj h)
      exact ⟨rfl, by simp⟩
  | cons member rest ih =>
      rcases storeMembers_cases h with ⟨-, hnone, h⟩ | ⟨other, hother, hnew, h⟩
      · obtain ⟨hget, hrest⟩ := ih hseen h
        exact ⟨hget, List.forall_mem_cons.mpr ⟨hnone position, hrest⟩⟩
      · have hne : other ≠ position := by
          rintro rfl
          exact hnew hseen
        have hmember : ¬ layout.Names member.1 position := fun hnames => hne (hother.eq hnames)
        rcases h with ⟨-, h⟩ | ⟨field, next, hfield, hstore, h⟩
        · obtain ⟨hget, hrest⟩ := ih hseen h
          exact ⟨hget, List.forall_mem_cons.mpr ⟨hmember, hrest⟩⟩
        · obtain ⟨hget, hrest⟩ := ih (List.mem_cons_of_mem _ hseen) h
          rw [holds.keeps other field hfield hne _ _ _ hstore] at hget
          exact ⟨hget, List.forall_mem_cons.mpr ⟨hmember, hrest⟩⟩

/-- A field that was not given holds what each member that names it says, and stays as it is where
no member does. -/
theorem Holds.get_of_fresh {position : Nat} {get : δ → β} {read : V → Read β}
    (holds : layout.Holds position get read) (hfresh : position ∉ seen)
    (h : layout.storeMembers skip members seen draft = .ok (given, stored)) :
    (∀ member ∈ members, layout.Names member.1 position → read member.2 = .ok (get stored)) ∧
      ((∀ member ∈ members, ¬ layout.Names member.1 position) → get stored = get draft) := by
  induction members generalizing seen draft with
  | nil =>
      obtain ⟨-, rfl⟩ := Prod.mk.inj (Except.ok.inj h)
      exact ⟨by simp, fun _ => rfl⟩
  | cons member rest ih =>
      rcases storeMembers_cases h with ⟨-, hnone, h⟩ | ⟨other, hother, -, h⟩
      · obtain ⟨hgiven, habsent⟩ := ih hfresh h
        refine ⟨List.forall_mem_cons.mpr ⟨fun hnames => absurd hnames (hnone position), hgiven⟩, ?_⟩
        exact fun hnot => habsent (List.forall_mem_cons.mp hnot).2
      · by_cases hsame : other = position
        · subst hsame
          obtain ⟨found, hfound, hsets⟩ := holds.sets
          rcases h with ⟨hnone, -⟩ | ⟨field, next, hfield, hstore, h⟩
          · rw [hfound] at hnone
            cases hnone
          · rw [hfound] at hfield
            obtain rfl := Option.some.inj hfield
            obtain ⟨hget, hrest⟩ := holds.get_of_seen List.mem_cons_self h
            have hread : read member.2 = .ok (get stored) := by
              rw [hget]
              exact hsets _ _ _ hstore
            refine ⟨List.forall_mem_cons.mpr ⟨fun _ => hread, ?_⟩, fun hnot => ?_⟩
            · exact fun later hlater hnames => absurd hnames (hrest later hlater)
            · exact absurd hother (List.forall_mem_cons.mp hnot).1
        · have hmember : ¬ layout.Names member.1 position := fun hnames => hsame (hother.eq hnames)
          rcases h with ⟨-, h⟩ | ⟨field, next, hfield, hstore, h⟩
          · obtain ⟨hgiven, habsent⟩ := ih hfresh h
            refine ⟨List.forall_mem_cons.mpr ⟨fun hnames => absurd hnames hmember, hgiven⟩, ?_⟩
            exact fun hnot => habsent (List.forall_mem_cons.mp hnot).2
          · have hlater : position ∉ other :: seen := by
              simp [hfresh, Ne.symm hsame]
            obtain ⟨hgiven, habsent⟩ := ih hlater h
            rw [holds.keeps other field hfield hsame _ _ _ hstore] at habsent
            refine ⟨List.forall_mem_cons.mpr ⟨fun hnames => absurd hnames hmember, hgiven⟩, ?_⟩
            exact fun hnot => habsent (List.forall_mem_cons.mp hnot).2

/-- What a field leaves in its part of the draft is what the members say. -/
theorem Holds.of_stored {parts : List (String × V)} {name : String} {position : Nat} {get : δ → β}
    {read : V → Read β} (holds : layout.Holds position get read) (plain : layout.Plain)
    (hname : (layout.fields.map Field.name)[position]? = some name)
    (hstored : layout.storeMembers skip (keyed parts) [] draft = .ok (given, stored)) :
    Says parts name read (get draft) (get stored) := by
  obtain ⟨hgiven, habsent⟩ := holds.get_of_fresh (by simp) hstored
  constructor
  · intro value hvalue
    exact hgiven _ (List.mem_map_of_mem hvalue) (plain.names_text_iff.mpr hname)
  · intro hnone
    refine habsent fun member hmember hnames => ?_
    obtain ⟨⟨other, value⟩, hpart, rfl⟩ := List.mem_map.mp hmember
    rw [plain.names_text_iff, hname] at hnames
    obtain rfl := Option.some.inj hnames
    exact hnone value hpart

end Layout

end Tablewright.Document
