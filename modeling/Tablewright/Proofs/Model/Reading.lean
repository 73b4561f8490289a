/-
What the validation of a model says of its JSON text.

A model is read from an object of objects, and a name given again stands for its last
value at its first place.  What is left of the text then is a list of named objects,
one for each entity, in the same order.  So the verdict on the entities, which is about
the nodes that were made of them, is a verdict on the members of these objects: the
first object that its members make no object of is reported, and as what they make of
it instead.
-/
import Tablewright.Model.Loading
import Tablewright.Proofs.Json.Reader
import Tablewright.Proofs.Node.Contents
import Tablewright.Proofs.Validation

namespace Tablewright

open Document

/-- The tree is an object of objects, as far as its brackets go. -/
def Document.Tree.IsMapOfMaps (t : Tree) : Prop :=
  ∃ entities ending, t = .map entities ending ∧
    ∀ entity ∈ entities, ∃ members ending, entity.2 = .map members ending

/-- An object of named objects. -/
def Document.Tree.ofDocument (document : List (String × List (String × Tree))) : Tree :=
  .object (document.map fun entity => (entity.1, .object entity.2))

/-- The members of an entity do not make an object of it. -/
inductive Misdeclared : String × List (String × Tree) → Failure → Prop
  | intro {name found : String} {members : List (String × Tree)} (h : ¬ Node.Declared members)
      (shows : Node.Shows members found) : Misdeclared (name, members) (.notAnObject name found)

/-! ### Entities -/

namespace Node

variable {members : List (String × Tree)} {n : Node}

theorem MadeOf.tidy_eq (h : MadeOf members n) : n.tidy = n := by
  cases hobject : n.isObject with
  | false => cases n <;> first | rfl | cases hobject
  | true =>
      obtain ⟨properties, overrides, traits, rfl, hproperties, -⟩ :=
        h.contents (h.isObject_iff.mp hobject)
      rw [tidy, Entries.ofList_of_nodup hproperties.nodup]

theorem MadeOf.misdeclared_iff (h : MadeOf members n) {name : String} {failure : Failure} :
    Misdeclared (name, members) failure ↔ Misshapen (name, n) failure := by
  constructor
  · rintro ⟨hnot, shows⟩
    rw [(h.shows_iff _).mp shows]
    exact .intro (Bool.eq_false_iff.mpr (mt h.isObject_iff.mp hnot))
  · rintro ⟨hobject⟩
    refine .intro (fun declared => ?_) ((h.shows_iff _).mpr rfl)
    rw [h.isObject_iff.mpr declared] at hobject
    cases hobject

end Node

/-- A list of named objects has an entity for each of them, made of its members. -/
def EntitiesOf (sources : List (String × List (String × Tree))) (entities : List (String × Node)) :
    Prop :=
  List.Forall₂ (fun source entity => source.1 = entity.1 ∧ Node.MadeOf source.2 entity.2)
    sources entities

namespace EntitiesOf

variable {sources : List (String × List (String × Tree))} {entities : List (String × Node)}

theorem map_tidy (h : EntitiesOf sources entities) :
    (entities.map fun entity => (entity.1, entity.2.tidy)) = entities := by
  induction h with
  | nil => rfl
  | cons hfirst _ ih => rw [List.map_cons, ih, hfirst.2.tidy_eq]

theorem first_misshapen_iff (h : EntitiesOf sources entities) {failure : Failure} :
    First Misshapen entities failure ↔ First Misdeclared sources failure := by
  refine (first_iff_of_forall₂ (h.imp ?_)).symm
  rintro ⟨name, members⟩ ⟨_, node⟩ ⟨rfl, hmade⟩ reported
  exact hmade.misdeclared_iff

theorem exists_madeOf (h : EntitiesOf sources entities) :
    ∀ source ∈ sources, ∃ n, Node.MadeOf source.2 n := by
  induction h with
  | nil => simp
  | cons hfirst _ ih => exact List.forall_mem_cons.mpr ⟨⟨_, hfirst.2⟩, ih⟩

theorem isObject_iff (h : EntitiesOf sources entities) :
    (∀ entity ∈ entities, entity.2.isObject = true) ↔
      ∀ source ∈ sources, Node.Declared source.2 := by
  induction h with
  | nil => simp
  | cons hfirst _ ih =>
      rw [List.forall_mem_cons, List.forall_mem_cons, ih, hfirst.2.isObject_iff]

/-- The first object that is misdeclared stands behind objects that are not. -/
theorem first_misdeclared_iff (h : EntitiesOf sources entities) {failure : Failure} :
    First Misdeclared sources failure ↔ ∃ before source after found,
      sources = before ++ source :: after ∧ (∀ other ∈ before, Node.Declared other.2) ∧
      ¬ Node.Declared source.2 ∧ Node.Shows source.2 found ∧ found ≠ "object" ∧
      failure = .notAnObject source.1 found := by
  constructor
  · rintro ⟨before, ⟨name, members⟩, after, hsplit, hbefore, ⟨hnot, shows⟩⟩
    refine ⟨before, _, after, _, hsplit, ?_, hnot, shows, shows.ne_object hnot, rfl⟩
    intro other hother
    by_contra hundeclared
    obtain ⟨n, hn⟩ := h.exists_madeOf other (hsplit ▸ List.mem_append_left _ hother)
    exact hbefore other hother _ (.intro hundeclared ((hn.shows_iff _).mpr rfl))
  · rintro ⟨before, ⟨name, members⟩, after, found, hsplit, hbefore, hnot, shows, -, rfl⟩
    refine ⟨before, _, after, hsplit, ?_, .intro hnot shows⟩
    rintro other hother reported ⟨hundeclared, -⟩
    exact hundeclared (hbefore _ hother)

end EntitiesOf

theorem exists_document {named : List (String × Tree)} {pairs : List (String × Node)}
    (json : ∀ member ∈ named, member.2.IsJson)
    (maps : ∀ member ∈ named, ∃ members ending, member.2 = .map members ending)
    (h : Node.ReadFrom named pairs) :
    ∃ document, Tree.object named = .ofDocument document ∧ EntitiesOf document pairs := by
  -- All members were read as nodes, also those whose place a later one takes.
  have hnamed : ∃ document : List (String × List (String × Tree)),
      named = (document.map fun entity => (entity.1, Tree.object entity.2)) ∧
        EntitiesOf document pairs := by
    induction h with
    | nil => exact ⟨[], rfl, .nil⟩
    | @cons member pair rest pairs hfirst _ ih =>
        rw [List.forall_mem_cons] at json maps
        obtain ⟨document, rfl, hdocument⟩ := ih json.2 maps.2
        obtain ⟨name, t⟩ := member
        obtain ⟨entries, ending, rfl⟩ := maps.1
        obtain ⟨members, hmembers⟩ := Node.exists_object_of_read json.1 hfirst.2
        rw [hmembers] at hfirst json
        refine ⟨(name, members) :: document, by rw [hmembers]; rfl, .cons ⟨hfirst.1, ?_⟩ hdocument⟩
        exact Node.madeOf_of_read (Node.mem_of_isJson_object json.1) hfirst.2
  obtain ⟨document, rfl, hdocument⟩ := hnamed
  exact ⟨document, rfl, hdocument⟩

namespace Model

variable {m : Model}

/-- **A model that is read from an object of objects has an entity for each name, made of the last
object of that name.** -/
theorem exists_sources_of_read {t : Tree} (json : t.IsJson) (maps : t.IsMapOfMaps)
    (h : read t = .ok m) : ∃ document sources, t = .ofDocument document ∧
      Entries.Collects document sources ∧ EntitiesOf sources m.entities := by
  have hread : ∃ entries, Node.readEntries t = .ok entries ∧ ofList entries = m := by
    rw [read] at h
    cases hentries : Node.readEntries t with
    | error fault =>
        rw [hentries] at h
        cases h
    | ok entries =>
        rw [hentries] at h
        exact ⟨entries, rfl, Except.ok.inj h⟩
  obtain ⟨entries, hentries, hmodel⟩ := hread
  obtain ⟨named, pairs, rfl, hnamed, rfl⟩ := Node.exists_object_of_readEntries json hentries
  have hmaps : ∀ member ∈ named, ∃ members ending, member.2 = .map members ending := by
    obtain ⟨entities, ending, hobject, hinner⟩ := maps
    obtain ⟨hentities, -⟩ := Tree.map.inj hobject
    rw [← hentities] at hinner
    exact fun member hmember => hinner _ (List.mem_map_of_mem hmember)
  obtain ⟨document, hdocument, hpairs⟩ :=
    exists_document (Node.mem_of_isJson_object json) hmaps hnamed
  have hsources : EntitiesOf (Entries.ofList document) (Entries.ofList pairs) :=
    Entries.forall₂_ofList (fun _ _ hentity => hentity.1) hpairs
  have hentities : m.entities = Entries.ofList pairs := by
    rw [← hmodel]
    show Entries.ofList ((Entries.ofList pairs).map fun entity => (entity.1, entity.2.tidy)) = _
    rw [hsources.map_tidy, Entries.ofList_of_nodup (Entries.nodup_ofList pairs)]
  rw [hentities]
  exact ⟨document, _, hdocument, Entries.collects_ofList document, hsources⟩

/--
**The verdict on a model, in terms of its text.**  A text that is an object of objects and is read
as a model has a list of named objects, the last of each name, and an entity for each of them.

Validation passes exactly where every one of these objects declares the type of an object and gives
neither a target nor members.  Otherwise it reports the first one that does not, as what its members
make of it, which is never an object.  An object that passes is an entity with the properties and
the overrides that it gives, whatever else it gives and in whatever order.
-/
theorem validate_ofJson {text : String} (hread : ofJson text = .ok m)
    (maps : (Json.parse text).1.IsMapOfMaps) :
    ∃ document sources, (Json.parse text).1 = .ofDocument document ∧
      Entries.Collects document sources ∧
      (m.validate = .ok () ↔ ∀ source ∈ sources, Node.Declared source.2) ∧
      (∀ failure, m.validate = .error failure ↔ ∃ before source after found,
        sources = before ++ source :: after ∧ (∀ other ∈ before, Node.Declared other.2) ∧
        ¬ Node.Declared source.2 ∧ Node.Shows source.2 found ∧ found ≠ "object" ∧
        failure = .notAnObject source.1 found) ∧
      List.Forall₂ (fun source entity => source.1 = entity.1 ∧
        (Node.Declared source.2 → ∃ properties overrides traits,
          entity.2 = .object properties overrides traits ∧
          Node.PropertiesOf source.2 properties ∧ Node.OverridesOf source.2 overrides))
        sources m.entities := by
  have hmodel : read (Json.parse text).1 = .ok m :=
    Json.readText_eq_ok (mapError_eq_ok_iff.mp hread)
  obtain ⟨document, sources, hdocument, hcollects, hentities⟩ :=
    exists_sources_of_read (Json.isJson_parse text) maps hmodel
  refine ⟨document, sources, hdocument, hcollects, ?_, fun failure => ?_, ?_⟩
  · rw [validate_eq_ok_iff, Shaped, hentities.isObject_iff]
  · rw [validate_eq_error_iff, hentities.first_misshapen_iff, hentities.first_misdeclared_iff]
  · exact hentities.imp fun _ _ hentity => ⟨hentity.1, hentity.2.contents⟩

/-- A user, whose members give a name that means nothing besides its type, and a role that is of the
type of objects and an enumeration. -/
def accounts : Value :=
  .object [
    ("user", .object [("enum", .null), ("colour", .list []), ("type", .scalar (.text "object"))]),
    ("role", .object [("enum", .list [.scalar (.text "a")]), ("type", .scalar (.text "object"))])]

theorem plain_accounts : accounts.Plain 3 := by
  have htext (s : String) (levels : Nat) : Value.Plain levels (.scalar (.text s)) := .scalar (.text s)
  have hnull : Value.Plain 1 .null := .scalar .null
  have hempty : Value.Plain 1 (.list []) := .list (by simp)
  have hmembers : Value.Plain 1 (.list [.scalar (.text "a")]) := .list (by simp [htext])
  have huser : Value.Plain 2 (.object [("enum", .null), ("colour", .list []),
      ("type", .scalar (.text "object"))]) :=
    Value.plain_map (by simp [plainMember_name, hnull, hempty, htext])
  have hrole : Value.Plain 2 (.object [("enum", .list [.scalar (.text "a")]),
      ("type", .scalar (.text "object"))]) :=
    Value.plain_map (by simp [plainMember_name, hmembers, htext])
  exact Value.plain_map (by simp [plainMember_name, huser, hrole])

theorem validate_ofJson_accounts : ∃ m, ofJson (Json.text accounts) = .ok m ∧
    (Json.parse (Json.text accounts)).1.IsMapOfMaps ∧
    m.validate = .error (.notAnObject "role" "enum of object") ∧
    ∃ role : String × List (String × Tree), role.1 = "role" ∧ ¬ Node.Declared role.2 ∧
      Node.Shows role.2 "enum of object" := by
  have hparse : Json.parse (Json.text accounts) = (accounts.toTree, false) :=
    Json.parse_text plain_accounts (by decide)
  have hread : ∃ m, ofJson (Json.text accounts) = .ok m ∧
      m.validate = .error (.notAnObject "role" "enum of object") := by
    unfold ofJson Json.readText
    rw [hparse]
    exact ⟨_, rfl, rfl⟩
  have hmaps : (Json.parse (Json.text accounts)).1.IsMapOfMaps := by
    rw [hparse]
    refine ⟨_, _, rfl, ?_⟩
    simp [Value.memberTrees, Value.object, Value.toTree]
  obtain ⟨m, hm, hvalidate⟩ := hread
  obtain ⟨document, sources, -, -, -, hfailure, -⟩ := validate_ofJson hm hmaps
  obtain ⟨before, role, after, found, -, -, hnot, shows, -, hfound⟩ := (hfailure _).mp hvalidate
  obtain ⟨hname, rfl⟩ := Failure.notAnObject.inj hfound
  exact ⟨m, hm, hmaps, hvalidate, role, hname.symm, hnot, shows⟩

end Model

end Tablewright
