/-
What the trees of JSON texts are made of.

A scalar of a JSON text is one thing only and every key is a text, though the text may
be one that cannot be read.  A text is taken token by token, with a stack of the
containers that are still open, and each step only moves parts of this kind from one
place to another; so the tree is of this kind as well, wherever the text breaks off.

An object that is read without a fault ends as it should, and all of its keys can be
read.  So it is known by its members.
-/
import Tablewright.Json.Reader
import Tablewright.Proofs.Document.Fields

namespace Tablewright

open Document

/-- The tree of a part of a JSON text. -/
inductive Document.Tree.IsJson : Tree → Prop
  | null : IsJson (.ofScalar .null)
  | flag (value : Bool) : IsJson (.ofScalar (.flag value))
  | number (value : Number) : IsJson (.ofScalar (.number value))
  | text (value : String) : IsJson (.ofScalar (.text value))
  | list {items : List Tree} {ending : ListEnd} (h : ∀ item ∈ items, IsJson item) :
      IsJson (.list items ending)
  | map {members : List (Key × Tree)} {ending : MapEnd}
      (keys : ∀ member ∈ members, ∃ text, member.1 = .ofText text)
      (h : ∀ member ∈ members, IsJson member.2) : IsJson (.map members ending)
  | deep {t : Tree} (h : IsJson t) : IsJson (.barred .depth t)
  | broken (fault : Break) : IsJson (.broken fault)

namespace Document.Tree.IsJson

variable {t : Tree}

theorem isAbsent_iff (json : t.IsJson) : t.isAbsent = true ↔ t = .ofScalar .null := by
  cases json with
  | null => exact iff_of_true rfl rfl
  | _ => exact iff_of_false (by rintro ⟨⟩) (by rintro ⟨⟩)

theorem optional_text_iff (json : t.IsJson) {text : String} :
    t.optional Tree.text = .ok (some text) ↔ t = .ofScalar (.text text) := by
  rw [optional_eq_some_iff]
  constructor
  · rintro ⟨-, h⟩
    cases json with
    | text value =>
        obtain rfl := Except.ok.inj h
        rfl
    | _ => exact absurd h (refuse_ne_ok _ _ _)
  · rintro rfl
    exact ⟨rfl, rfl⟩

theorem isJson_of_mem_values {items : List Tree}
    (h : ∀ item ∈ items, ∀ v, item.value = .ok v → v.IsJson) {values : List Value}
    (hvalues : Tree.values items = .ok values) : ∀ v ∈ values, v.IsJson := by
  induction items generalizing values with
  | nil =>
      obtain rfl := Except.ok.inj hvalues
      simp
  | cons item rest ih =>
      rw [List.forall_mem_cons] at h
      rw [Tree.values] at hvalues
      obtain ⟨first, hfirst, hvalues⟩ := bind_eq_ok_iff.mp hvalues
      obtain ⟨others, hothers, hvalues⟩ := bind_eq_ok_iff.mp hvalues
      obtain rfl := Except.ok.inj hvalues
      exact List.forall_mem_cons.mpr ⟨h.1 first hfirst, ih h.2 hothers⟩

theorem isJson_map_of_memberValues {members : List (Key × Tree)}
    (keys : ∀ member ∈ members, ∃ text, member.1 = .ofText text)
    (h : ∀ member ∈ members, ∀ v, member.2.value = .ok v → v.IsJson)
    {values : List (Label × Value)} (hvalues : Tree.memberValues members = .ok values) :
    (Value.map values).IsJson := by
  have hparts : ∀ part ∈ values, (∃ name, part.1 = .name name) ∧ part.2.IsJson := by
    induction members generalizing values with
    | nil =>
        obtain rfl := Except.ok.inj hvalues
        simp
    | cons member rest ih =>
        obtain ⟨key, item⟩ := member
        rw [List.forall_mem_cons] at keys h
        obtain ⟨text, rfl⟩ := keys.1
        rw [Tree.memberValues] at hvalues
        obtain ⟨label, hlabel, hvalues⟩ := bind_eq_ok_iff.mp hvalues
        obtain ⟨first, hfirst, hvalues⟩ := bind_eq_ok_iff.mp hvalues
        obtain ⟨others, hothers, hvalues⟩ := bind_eq_ok_iff.mp hvalues
        obtain rfl := Except.ok.inj hvalues
        refine List.forall_mem_cons.mpr ⟨⟨?_, h.1 first hfirst⟩, ih keys.2 h.2 hothers⟩
        cases text with
        | error fault => cases hlabel
        | ok name => exact ⟨name, (Except.ok.inj hlabel).symm⟩
  obtain ⟨named, hnamed, hmem⟩ := Value.exists_object fun part hpart => (hparts part hpart).1
  rw [hnamed]
  exact .object fun member hmember => (hparts _ (hmem member hmember)).2

/-- What is read whole from a JSON text is a value as JSON has them. -/
theorem value (json : t.IsJson) {v : Value} (h : t.value = .ok v) : v.IsJson := by
  induction json generalizing v with
  | null =>
      obtain rfl := Except.ok.inj h
      exact .null
  | flag value =>
      obtain rfl := Except.ok.inj h
      exact .flag value
  | number value =>
      obtain rfl := Except.ok.inj h
      exact .number value
  | text value =>
      obtain rfl := Except.ok.inj h
      exact .text value
  | list _ ih =>
      rw [Tree.value] at h
      obtain ⟨values, hvalues, h⟩ := bind_eq_ok_iff.mp h
      obtain ⟨_, -, h⟩ := bind_eq_ok_iff.mp h
      obtain rfl := Except.ok.inj h
      exact .list (isJson_of_mem_values (fun item hitem v => ih item hitem) hvalues)
  | map keys _ ih =>
      rw [Tree.value] at h
      obtain ⟨values, hvalues, h⟩ := bind_eq_ok_iff.mp h
      obtain ⟨_, -, h⟩ := bind_eq_ok_iff.mp h
      obtain rfl := Except.ok.inj h
      exact isJson_map_of_memberValues keys (fun member hmember v => ih member hmember) hvalues
  | deep | broken => cases h

/-- A scalar is read whole from that scalar only. -/
theorem eq_of_value (json : t.IsJson) {s : Scalar} (h : t.value = .ok (.scalar s)) :
    t = .ofScalar s := by
  cases json with
  | list _ =>
      obtain ⟨_, -, h⟩ := bind_eq_ok_iff.mp h
      obtain ⟨_, -, h⟩ := bind_eq_ok_iff.mp h
      cases h
  | map _ _ =>
      obtain ⟨_, -, h⟩ := bind_eq_ok_iff.mp h
      obtain ⟨_, -, h⟩ := bind_eq_ok_iff.mp h
      cases h
  | deep | broken => cases h
  | _ =>
      cases h
      rfl

end Document.Tree.IsJson

/-- A map whose keys can all be read is known by its members. -/
theorem Document.exists_keyed {V : Type} {members : List (Key × V)}
    (keys : ∀ member ∈ members, ∃ text, member.1 = .ofText text)
    (labels : ∀ member ∈ members, ∃ label, member.1.direct = .ok label) :
    ∃ named, members = keyed named := by
  induction members with
  | nil => exact ⟨[], rfl⟩
  | cons member rest ih =>
      obtain ⟨key, part⟩ := member
      rw [List.forall_mem_cons] at keys labels
      obtain ⟨named, rfl⟩ := ih keys.2 labels.2
      obtain ⟨text, rfl⟩ := keys.1
      obtain ⟨label, hlabel⟩ := labels.1
      cases text with
      | error fault => cases hlabel
      | ok name => exact ⟨(name, part) :: named, rfl⟩

namespace Json

/-! ### Tokens -/

/-- A token carries a tree only where it is a scalar. -/
def Token.IsJson : Token → Prop
  | .scalar value => value.IsJson
  | _ => True

theorem isJson_scanText (cs : List Char) : (scanText cs).1.IsJson := by
  unfold scanText
  dsimp only
  split <;> trivial

theorem isJson_scanNamed {s : Scalar} (h : (Tree.ofScalar s).IsJson) (word cs : List Char) :
    (scanNamed word s cs).1.IsJson := by
  unfold scanNamed
  split
  · exact h
  · trivial

theorem isJson_scanNumber (cs : List Char) : (scanNumber cs).1.IsJson := by
  unfold scanNumber
  split
  · trivial
  · split
    · exact .number _
    · exact .broken _

theorem isJson_ite {p : Prop} [Decidable p] {first second : Token × List Char}
    (hfirst : first.1.IsJson) (hsecond : second.1.IsJson) :
    (if p then first else second).1.IsJson := by
  split
  · exact hfirst
  · exact hsecond

theorem isJson_scanToken (c : Char) (cs : List Char) : (scanToken c cs).1.IsJson := by
  unfold scanToken
  -- The six marks come first, then the texts, the words and the numbers.
  iterate 6 refine isJson_ite trivial ?_
  refine isJson_ite (isJson_scanText cs) ?_
  refine isJson_ite (isJson_scanNamed .null _ cs) ?_
  refine isJson_ite (isJson_scanNamed (.flag true) _ cs) ?_
  refine isJson_ite (isJson_scanNamed (.flag false) _ cs) ?_
  exact isJson_ite (isJson_scanNumber (c :: cs)) trivial

theorem isJson_of_mem_tokensWithin {size : Nat} {cs : List Char} {token : Token}
    (h : token ∈ tokensWithin size cs) : token.IsJson := by
  induction size generalizing cs with
  | zero => cases cs <;> cases h
  | succ size ih =>
      cases cs with
      | nil => cases h
      | cons c cs =>
          rw [tokensWithin] at h
          split at h
          · exact ih h
          · rcases List.mem_cons.mp h with rfl | hrest
            · exact isJson_scanToken c cs
            · exact ih hrest

/-! ### Open containers -/

/-- The members of a map, as far as they were taken. -/
def AreJson (members : List (Key × Tree)) : Prop :=
  ∀ member ∈ members, (∃ text, member.1 = .ofText text) ∧ member.2.IsJson

theorem AreJson.reverse {members : List (Key × Tree)} (h : AreJson members) :
    AreJson members.reverse :=
  fun member hmember => h member (List.mem_reverse.mp hmember)

theorem AreJson.cons {members : List (Key × Tree)} {text : Read String} {t : Tree}
    (ht : t.IsJson) (h : AreJson members) : AreJson ((.ofText text, t) :: members) :=
  List.forall_mem_cons.mpr ⟨⟨⟨text, rfl⟩, ht⟩, h⟩

theorem AreJson.map {members : List (Key × Tree)} (h : AreJson members) (ending : MapEnd) :
    (Document.Tree.map members ending).IsJson :=
  .map (fun member hmember => (h member hmember).1) fun member hmember => (h member hmember).2

/-- The parts of an open container. -/
def Frame.IsJson : Frame → Prop
  | .list items => ∀ item ∈ items, item.IsJson
  | .map members => AreJson members
  | .member members key => AreJson members ∧ ∃ text, key = .ofText text

/-- Everything that was taken so far. -/
def Progress.IsJson : Progress → Prop
  | .open stack _ => ∀ frame ∈ stack, frame.IsJson
  | .complete t _ | .broken t => t.IsJson

section

variable {stack : List Frame} {t : Tree}

theorem isJson_nested (h : t.IsJson) (enclosing : Nat) : (nested enclosing t).IsJson := by
  unfold nested
  split
  · exact h
  · exact .deep h

theorem isJson_list_reverse {items : List Tree} (h : ∀ item ∈ items, item.IsJson) (ending : ListEnd) :
    (Tree.list items.reverse ending).IsJson :=
  .list fun item hitem => h item (List.mem_reverse.mp hitem)

theorem isJson_breakOff (hstack : ∀ frame ∈ stack, frame.IsJson) (ht : t.IsJson) :
    (breakOff stack t).IsJson := by
  induction stack generalizing t with
  | nil => exact ht
  | cons frame rest ih =>
      rw [List.forall_mem_cons] at hstack
      obtain ⟨hframe, hrest⟩ := hstack
      cases frame with
      | list items =>
          exact ih hrest (isJson_nested
            (isJson_list_reverse (List.forall_mem_cons.mpr ⟨ht, hframe⟩) _) _)
      | map members => exact ih hrest (isJson_nested (hframe.reverse.map _) _)
      | member members key =>
          obtain ⟨hmembers, text, rfl⟩ := hframe
          exact ih hrest (isJson_nested ((hmembers.cons ht).reverse.map _) _)

theorem isJson_breakValue (hstack : ∀ frame ∈ stack, frame.IsJson) (fault : Error) :
    (breakValue stack fault).IsJson :=
  isJson_breakOff hstack (.broken _)

theorem isJson_breakList (hstack : ∀ frame ∈ stack, frame.IsJson) (ending : ListEnd) :
    (breakList stack ending).IsJson := by
  unfold breakList
  split
  · rw [List.forall_mem_cons] at hstack
    exact isJson_breakOff hstack.2 (isJson_nested (isJson_list_reverse hstack.1 _) _)
  · exact isJson_breakValue hstack _

theorem isJson_breakMap (hstack : ∀ frame ∈ stack, frame.IsJson) (ending : Key → MapEnd) :
    (breakMap stack ending).IsJson := by
  unfold breakMap
  split
  · rw [List.forall_mem_cons] at hstack
    exact isJson_breakOff hstack.2 (isJson_nested (hstack.1.reverse.map _) _)
  · rw [List.forall_mem_cons] at hstack
    exact isJson_breakOff hstack.2 (isJson_nested (hstack.1.1.reverse.map _) _)
  · exact isJson_breakValue hstack _

theorem isJson_put (hstack : ∀ frame ∈ stack, frame.IsJson) (ht : t.IsJson) :
    (put t stack).IsJson := by
  cases stack with
  | nil => exact ht
  | cons frame rest =>
      rw [List.forall_mem_cons] at hstack
      obtain ⟨hframe, hrest⟩ := hstack
      cases frame with
      | list items => exact List.forall_mem_cons.mpr ⟨List.forall_mem_cons.mpr ⟨ht, hframe⟩, hrest⟩
      | map members => exact List.forall_mem_cons.mpr ⟨hframe, hrest⟩
      | member members key =>
          obtain ⟨hmembers, text, rfl⟩ := hframe
          exact List.forall_mem_cons.mpr ⟨hmembers.cons ht, hrest⟩

theorem isJson_close (hstack : ∀ frame ∈ stack, frame.IsJson) : (close stack).IsJson := by
  unfold close
  split
  · rw [List.forall_mem_cons] at hstack
    exact isJson_put hstack.2 (isJson_nested (isJson_list_reverse hstack.1 _) _)
  · rw [List.forall_mem_cons] at hstack
    exact isJson_put hstack.2 (isJson_nested (hstack.1.reverse.map _) _)
  · exact isJson_breakValue hstack _

theorem isJson_takeValue (hstack : ∀ frame ∈ stack, frame.IsJson) {token : Token}
    (htoken : token.IsJson) : (takeValue stack token).IsJson := by
  cases token with
  | openMap => exact List.forall_mem_cons.mpr ⟨by simp [Frame.IsJson, AreJson], hstack⟩
  | openList => exact List.forall_mem_cons.mpr ⟨by simp [Frame.IsJson], hstack⟩
  | scalar value => exact isJson_put hstack htoken
  | text content =>
      cases content with
      | ok content => exact isJson_put hstack (.text _)
      | error fault => exact isJson_put hstack (.broken _)
  | brokenText fault | brokenScalar fault => exact isJson_breakOff hstack (.broken _)
  | closeMap | closeList | colon | comma | stray => exact isJson_breakValue hstack _

theorem isJson_takeKey (hstack : ∀ frame ∈ stack, frame.IsJson) (token : Token) :
    (takeKey stack token).IsJson := by
  unfold takeKey
  split
  · rw [List.forall_mem_cons] at hstack
    exact List.forall_mem_cons.mpr ⟨⟨hstack.1, _, rfl⟩, hstack.2⟩
  · exact isJson_breakMap hstack _
  · exact isJson_breakMap hstack _

end

/-! ### Texts -/

theorem isJson_step {p : Progress} {token : Token} (hp : p.IsJson) (htoken : token.IsJson) :
    (step p token).IsJson := by
  cases p with
  | complete t trailing => exact hp
  | broken t => exact hp
  | «open» stack next =>
      unfold step
      dsimp only
      split
      all_goals first
        | exact isJson_takeValue hp htoken
        | exact isJson_close hp
        | exact isJson_breakList hp _
        | exact isJson_takeKey hp _
        | exact isJson_breakMap hp _
        | exact hp

theorem isJson_finish {p : Progress} (hp : p.IsJson) : (finish p).IsJson := by
  cases p with
  | complete t trailing => exact hp
  | broken t => exact hp
  | «open» stack next =>
      unfold finish
      cases next with
      | value => exact isJson_breakValue hp _
      | nextItem | firstItem | afterItem => exact isJson_breakList hp _
      | firstKey | nextKey | colon | afterMember => exact isJson_breakMap hp _

theorem isJson_foldl {p : Progress} {tokens : List Token} (hp : p.IsJson)
    (htokens : ∀ token ∈ tokens, token.IsJson) : (tokens.foldl step p).IsJson := by
  induction tokens generalizing p with
  | nil => exact hp
  | cons token rest ih =>
      rw [List.forall_mem_cons] at htokens
      exact ih (isJson_step hp htokens.1) htokens.2

/-- **Every text has a tree of this kind.** -/
theorem isJson_parse (s : String) : (parse s).1.IsJson := by
  have hstart : (Progress.open [] .value).IsJson := by
    simp [Progress.IsJson]
  have hall := isJson_finish (isJson_foldl hstart fun token (htoken : token ∈ tokens s) =>
    isJson_of_mem_tokensWithin htoken)
  unfold parse
  split <;> rename_i h <;> rw [h] at hall
  · exact hall
  · exact hall
  · exact .broken _

theorem readText_eq_ok {α : Type} {read : Tree → Read α} {s : String} {a : α}
    (h : readText read s = .ok a) : read (parse s).1 = .ok a := by
  unfold readText at h
  generalize parse s = parsed at h ⊢
  obtain ⟨tree, trailing⟩ := parsed
  obtain ⟨value, hvalue, hrest⟩ := bind_eq_ok_iff.mp h
  cases trailing with
  | true => cases hrest
  | false => rw [hvalue, ← Except.ok.inj hrest]

end Json

end Tablewright
