/-
Escapes read back.

A percent sign is not escaped itself, and neither are the digits behind it.  So an
escaped text has the octets of the text it was made from, and what it reads back
as is what the escapes of that text stand for: the text itself exactly when it has
none.  One that has some reads back shorter, because three characters make one
octet and no octet is worth more than a character.
-/
import Tablewright.Proofs.Text.Utf8
import Tablewright.Url.Percent

namespace Tablewright.Url

open Text (hexValue?)

/-- A class of characters to escape that leaves the characters of escapes alone. -/
structure KeepsEscapes (isEscaped : Char → Bool) : Prop where
  percent : isEscaped '%' = false
  digit : ∀ c, hexValue? c ≠ none → isEscaped c = false

/-- A text does not start with the two digits of an escape. -/
def StartsNoOctet (cs : List Char) : Prop :=
  ∀ a b, [a, b] <+: cs → hexValue? a = none ∨ hexValue? b = none

/-- No percent sign in a text has two digits behind it. -/
def Unescaped (cs : List Char) : Prop :=
  ∀ a b, ['%', a, b] <:+: cs → hexValue? a = none ∨ hexValue? b = none

theorem unescaped_nil : Unescaped [] := by
  intro a b h
  simp at h

theorem unescaped_cons (c : Char) (rest : List Char) :
    Unescaped (c :: rest) ↔ (c = '%' → StartsNoOctet rest) ∧ Unescaped rest := by
  unfold Unescaped StartsNoOctet
  constructor
  · intro h
    refine ⟨?_, fun a b hab => h a b (List.infix_cons hab)⟩
    rintro rfl a b hab
    exact h a b (List.infix_cons_iff.mpr (Or.inl (List.cons_prefix_cons.mpr ⟨rfl, hab⟩)))
  · rintro ⟨hstart, hrest⟩ a b hab
    rcases List.infix_cons_iff.mp hab with hprefix | hinfix
    · obtain ⟨hc, hdigits⟩ := List.cons_prefix_cons.mp hprefix
      exact hstart hc.symm a b hdigits
    · exact hrest a b hinfix

/-! ### Single escapes -/

/-- The digits of an octet. -/
theorem escaped_digits {n : Nat} (h : n < 16) :
    hexValue? (Nat.digitChar n).toUpper = some n := by
  have hall : ∀ k : Fin 16, hexValue? (Nat.digitChar k).toUpper = some k.val := by decide
  exact hall ⟨n, h⟩

theorem hexValue?_percent : hexValue? '%' = none := by
  decide

theorem octets_escape {a b : Char} {x y : Nat} (ha : hexValue? a = some x)
    (hb : hexValue? b = some y) (after : List Char) :
    octets ('%' :: a :: b :: after) = (16 * x + y) :: octets after := by
  rw [octets, ha, hb]

theorem octets_escaped {o : Nat} (h : o < 256) (rest : List Char) :
    octets (escaped o ++ rest) = o :: octets rest := by
  have hhigh := escaped_digits (n := o / 16) (by omega)
  have hlow := escaped_digits (n := o % 16) (by omega)
  have ho : 16 * (o / 16) + o % 16 = o := Nat.div_add_mod o 16
  unfold escaped
  rw [List.cons_append, List.cons_append, List.cons_append, List.nil_append,
    octets_escape hhigh hlow, ho]

theorem mem_escaped {o : Nat} (h : o < 256) {c : Char} (hc : c ∈ escaped o) :
    c = '%' ∨ hexValue? c ≠ none := by
  have hhigh := escaped_digits (n := o / 16) (by omega)
  have hlow := escaped_digits (n := o % 16) (by omega)
  unfold escaped at hc
  simp only [List.mem_cons, List.not_mem_nil, or_false] at hc
  rcases hc with rfl | rfl | rfl
  · exact Or.inl rfl
  · exact Or.inr (by simp [hhigh])
  · exact Or.inr (by simp [hlow])

theorem KeepsEscapes.plain_of_mem_escaped {isEscaped : Char → Bool}
    (hkeeps : KeepsEscapes isEscaped) {o : Nat} (h : o < 256) {c : Char} (hc : c ∈ escaped o) :
    isEscaped c = false := by
  rcases mem_escaped h hc with rfl | hdigit
  · exact hkeeps.percent
  · exact hkeeps.digit c hdigit

/-- A character that starts no escape is its own octets. -/
theorem octets_cons {c : Char} {rest : List Char} (h : c = '%' → StartsNoOctet rest) :
    octets (c :: rest) = Utf8.encodeChar c ++ octets rest := by
  by_cases hc : c = '%'
  · have hrest := h hc
    subst hc
    match rest with
    | [] => rfl
    | [_] => rfl
    | a :: b :: after =>
        rw [octets]
        split
        · rename_i ha hb
          have hnone := hrest a b (List.prefix_append [a, b] after)
          simp [ha, hb] at hnone
        · rfl
  · rw [octets]
    intro a b after hpercent
    exact absurd hpercent hc

theorem hexValue?_ne_percent {c : Char} (h : hexValue? c ≠ none) : c ≠ '%' := by
  intro hc
  rw [hc] at h
  exact h hexValue?_percent

/-- The ways a text goes on as it is decoded: with an escape or with a character that starts none. -/
@[elab_as_elim]
theorem escape_induction {motive : List Char → Prop} (cs : List Char) (nil : motive [])
    (escape : ∀ a b x y after, hexValue? a = some x → hexValue? b = some y → motive after →
      motive ('%' :: a :: b :: after))
    (char : ∀ c rest, (c = '%' → StartsNoOctet rest) → motive rest → motive (c :: rest)) :
    motive cs := by
  induction cs using octets.induct with
  | case1 => exact nil
  | case2 a b after x y hb ha ih => exact escape a b x y after ha hb ih
  | case3 a b after hnone ih =>
      refine char _ _ (fun _ => ?_) ih
      rintro c d ⟨others, hothers⟩
      cases hothers
      cases ha : hexValue? a with
      | none => exact Or.inl rfl
      | some x => exact Or.inr (Option.eq_none_iff_forall_ne_some.mpr fun y => hnone x y ha)
  | case4 c rest hshort ih =>
      refine char c rest (fun hc => ?_) ih
      rintro a b ⟨after, hafter⟩
      exact absurd hafter.symm (hshort a b after hc)

/-! ### Escaped texts -/

section Encode

variable {isEscaped : Char → Bool}

@[simp] theorem encode_nil : encode isEscaped [] = [] := rfl

theorem encode_cons_of_escaped {c : Char} (h : isEscaped c = true) (rest : List Char) :
    encode isEscaped (c :: rest)
      = (Utf8.encodeChar c).flatMap escaped ++ encode isEscaped rest := by
  simp [encode, h]

theorem encode_cons_of_plain {c : Char} (h : isEscaped c = false) (rest : List Char) :
    encode isEscaped (c :: rest) = c :: encode isEscaped rest := by
  simp [encode, h]

theorem octets_flatMap_escaped {os : List Nat} (h : ∀ o ∈ os, o < 256) (rest : List Char) :
    octets (os.flatMap escaped ++ rest) = os ++ octets rest := by
  induction os with
  | nil => rfl
  | cons o others ih =>
      rw [List.forall_mem_cons] at h
      rw [List.flatMap_cons, List.append_assoc, octets_escaped h.1, ih h.2]
      rfl

/-- What an escaped text starts with, unless it is an escape, the text itself starts with. -/
theorem encode_eq_cons {cs : List Char} {c : Char} {rest : List Char} (hc : c ≠ '%')
    (h : encode isEscaped cs = c :: rest) :
    ∃ after, cs = c :: after ∧ encode isEscaped after = rest := by
  cases cs with
  | nil => cases h
  | cons d after =>
      cases hd : isEscaped d with
      | true =>
          -- the octets of a character start an escape, which is none of the text's own characters
          rw [encode_cons_of_escaped hd] at h
          cases hoctets : Utf8.encodeChar d with
          | nil => exact absurd hoctets (Utf8.encodeChar_ne_nil d)
          | cons o others =>
              rw [hoctets, List.flatMap_cons] at h
              unfold escaped at h
              cases h
              exact absurd rfl hc
      | false =>
          rw [encode_cons_of_plain hd] at h
          cases h
          exact ⟨after, rfl, rfl⟩

theorem startsNoOctet_encode {cs : List Char} (h : StartsNoOctet cs) :
    StartsNoOctet (encode isEscaped cs) := by
  rintro a b ⟨after, hafter⟩
  by_cases ha : hexValue? a = none
  · exact Or.inl ha
  by_cases hb : hexValue? b = none
  · exact Or.inr hb
  obtain ⟨others, hcs, hothers⟩ := encode_eq_cons (hexValue?_ne_percent ha) hafter.symm
  obtain ⟨rest, hrest, -⟩ := encode_eq_cons (hexValue?_ne_percent hb) hothers
  refine h a b ⟨rest, ?_⟩
  rw [hcs, hrest]
  rfl

/-- **An escaped text has the octets of the text it was made from.** -/
theorem octets_encode (hkeeps : KeepsEscapes isEscaped) (cs : List Char) :
    octets (encode isEscaped cs) = octets cs := by
  induction cs using escape_induction with
  | nil => rfl
  | escape a b x y after ha hb ih =>
      have hplaina : isEscaped a = false := hkeeps.digit a (by simp [ha])
      have hplainb : isEscaped b = false := hkeeps.digit b (by simp [hb])
      rw [encode_cons_of_plain hkeeps.percent, encode_cons_of_plain hplaina,
        encode_cons_of_plain hplainb, octets_escape ha hb, octets_escape ha hb, ih]
  | char c rest hc ih =>
      cases hescaped : isEscaped c with
      | true =>
          rw [encode_cons_of_escaped hescaped, octets_flatMap_escaped (Utf8.encodeChar_lt c),
            octets_cons hc, ih]
      | false =>
          rw [encode_cons_of_plain hescaped,
            octets_cons fun hpercent => startsNoOctet_encode (hc hpercent), octets_cons hc, ih]

/-- An escaped text has no character that is to be escaped. -/
theorem plain_of_mem_encode (hkeeps : KeepsEscapes isEscaped) {cs : List Char} :
    ∀ c ∈ encode isEscaped cs, isEscaped c = false := by
  induction cs with
  | nil => simp
  | cons d rest ih =>
      intro c hc
      cases hd : isEscaped d with
      | true =>
          rw [encode_cons_of_escaped hd, List.mem_append] at hc
          rcases hc with hescape | hrest
          · obtain ⟨o, ho, hco⟩ := List.mem_flatMap.mp hescape
            exact hkeeps.plain_of_mem_escaped (Utf8.encodeChar_lt d o ho) hco
          · exact ih c hrest
      | false =>
          rw [encode_cons_of_plain hd, List.mem_cons] at hc
          rcases hc with hself | hrest
          · rw [hself]
            exact hd
          · exact ih c hrest

theorem encode_of_plain {cs : List Char} (h : ∀ c ∈ cs, isEscaped c = false) :
    encode isEscaped cs = cs := by
  induction cs with
  | nil => rfl
  | cons c rest ih =>
      rw [List.forall_mem_cons] at h
      rw [encode_cons_of_plain h.1, ih h.2]

theorem encode_eq_nil_iff {cs : List Char} : encode isEscaped cs = [] ↔ cs = [] := by
  cases cs with
  | nil => simp
  | cons c rest =>
      cases hc : isEscaped c with
      | true =>
          rw [encode_cons_of_escaped hc]
          cases hoctets : Utf8.encodeChar c with
          | nil => exact absurd hoctets (Utf8.encodeChar_ne_nil c)
          | cons o others => simp [escaped]
      | false => simp [encode_cons_of_plain hc]

/-- A text that is escaped to one without escapes is that one. -/
theorem encode_eq_iff {cs ds : List Char} (h : ∀ c ∈ ds, c ≠ '%' ∧ isEscaped c = false) :
    encode isEscaped cs = ds ↔ cs = ds := by
  constructor
  · intro heq
    induction ds generalizing cs with
    | nil => exact encode_eq_nil_iff.mp heq
    | cons c rest ih =>
        rw [List.forall_mem_cons] at h
        obtain ⟨after, rfl, hafter⟩ := encode_eq_cons h.1.1 heq
        rw [ih h.2 hafter]
  · rintro rfl
    exact encode_of_plain fun c hc => (h c hc).2

/-- Apart from percent signs and digits, an escaped text has no characters but those of the text. -/
theorem mem_of_mem_encode {cs : List Char} {c : Char} (hc : c ≠ '%' ∧ hexValue? c = none)
    (h : c ∈ encode isEscaped cs) : c ∈ cs := by
  obtain ⟨d, hd, hcd⟩ := List.mem_flatMap.mp h
  split at hcd
  · obtain ⟨o, ho, hco⟩ := List.mem_flatMap.mp hcd
    rcases mem_escaped (Utf8.encodeChar_lt d o ho) hco with hpercent | hdigit
    · exact absurd hpercent hc.1
    · exact absurd hc.2 hdigit
  · rw [List.mem_singleton.mp hcd]
    exact hd

theorem decode_encode (hkeeps : KeepsEscapes isEscaped) (cs : List Char) :
    decode (encode isEscaped cs) = decode cs := by
  unfold decode
  rw [octets_encode hkeeps]

end Encode

/-! ### What escapes stand for -/

theorem octets_of_unescaped {cs : List Char} (h : Unescaped cs) : octets cs = Utf8.encode cs := by
  induction cs with
  | nil => rfl
  | cons c rest ih =>
      obtain ⟨hstart, hrest⟩ := (unescaped_cons c rest).mp h
      have hencode : Utf8.encode (c :: rest) = Utf8.encodeChar c ++ Utf8.encode rest := rfl
      rw [hencode, octets_cons hstart, ih hrest]

/-- A text reads back at most as long as it is. -/
theorem length_decodeFrom_octets (cs : List Char) {s : Option Utf8.Started}
    (h : Utf8.Continues s) :
    (Utf8.decodeFrom s (octets cs)).length ≤ cs.length + (Utf8.pending s).length := by
  induction cs using escape_induction generalizing s with
  | nil => simp [octets]
  | escape a b x y after ha hb ih =>
      obtain ⟨htaken, hcontinues⟩ := Utf8.take_spec h (16 * x + y)
      have hafter := ih hcontinues
      rw [octets_escape ha hb, Utf8.decodeFrom_cons, List.length_append]
      simp only [List.length_cons]
      omega
  | char c rest hc ih =>
      have hafter := ih Utf8.continues_none
      rw [octets_cons hc, Utf8.decodeFrom_encodeChar h]
      simp [Utf8.pending] at hafter ⊢
      omega

theorem length_decode_le (cs : List Char) : (decode cs).length ≤ cs.length :=
  length_decodeFrom_octets cs Utf8.continues_none

/-- A text with an escape reads back shorter than it is. -/
theorem length_decodeFrom_octets_lt {cs : List Char} (hcs : ¬ Unescaped cs)
    {s : Option Utf8.Started} (h : Utf8.Continues s) :
    (Utf8.decodeFrom s (octets cs)).length < cs.length + (Utf8.pending s).length := by
  induction cs using escape_induction generalizing s with
  | nil => exact absurd unescaped_nil hcs
  | escape a b x y after ha hb ih =>
      obtain ⟨htaken, hcontinues⟩ := Utf8.take_spec h (16 * x + y)
      have hafter := length_decodeFrom_octets after hcontinues
      rw [octets_escape ha hb, Utf8.decodeFrom_cons, List.length_append]
      simp only [List.length_cons]
      omega
  | char c rest hc ih =>
      have hlater : ¬ Unescaped rest := fun hall => hcs ((unescaped_cons c rest).mpr ⟨hc, hall⟩)
      have hafter := ih hlater Utf8.continues_none
      rw [octets_cons hc, Utf8.decodeFrom_encodeChar h]
      simp [Utf8.pending] at hafter ⊢
      omega

/-- **A text stands for itself exactly when it has no escape.** -/
theorem decode_eq_self_iff (cs : List Char) : decode cs = cs ↔ Unescaped cs := by
  constructor
  · intro hself
    refine Classical.byContradiction fun hescape => ?_
    have hshorter := length_decodeFrom_octets_lt hescape Utf8.continues_none
    unfold decode Utf8.decode at hself
    rw [hself] at hshorter
    simp [Utf8.pending] at hshorter
  · intro hunescaped
    unfold decode
    rw [octets_of_unescaped hunescaped, Utf8.decode_encode]

/-! ### The characters that are escaped -/

/-- What holds of the characters below 128, one by one, holds of all of them. -/
theorem forall_ascii {p : Char → Prop} (h : ∀ n : Fin 128, p (Char.ofNat n)) (c : Char)
    (hc : c.toNat < 128) : p c := by
  have hn := h ⟨c.toNat, hc⟩
  rwa [Char.ofNat_toNat] at hn

theorem lt_of_hexValue? {c : Char} (h : hexValue? c ≠ none) : c.toNat < 128 := by
  unfold hexValue? at h
  split at h
  · rename_i hdigit
    simp [Char.isDigit, UInt32.le_iff_toNat_le] at hdigit
    have hhigh : c.toNat ≤ 57 := hdigit.2
    omega
  split at h
  · rename_i hletter
    simp [Char.le_def, UInt32.le_iff_toNat_le] at hletter
    have hhigh : c.toNat ≤ 102 := hletter.2
    omega
  split at h
  · rename_i hletter
    simp [Char.le_def, UInt32.le_iff_toNat_le] at hletter
    have hhigh : c.toNat ≤ 70 := hletter.2
    omega
  · exact absurd rfl h

theorem escapedInPath_of_user {c : Char} (h : escapedInUser c = false) :
    escapedInPath c = false :=
  (Bool.or_eq_false_iff.mp h).1

theorem keepsEscapes_escapedInUser : KeepsEscapes escapedInUser where
  percent := by decide
  digit c hc := forall_ascii (p := fun c => hexValue? c ≠ none → escapedInUser c = false)
    (by decide) c (lt_of_hexValue? hc) hc

theorem keepsEscapes_escapedInPath : KeepsEscapes escapedInPath where
  percent := by decide
  digit c hc := escapedInPath_of_user (keepsEscapes_escapedInUser.digit c hc)

theorem lt_of_not_isControl {c : Char} (h : isControl c = false) : c.toNat < 128 := by
  unfold isControl at h
  simp only [Bool.or_eq_false_iff, decide_eq_false_iff_not, Char.not_lt, Char.le_def,
    UInt32.le_iff_toNat_le] at h
  have hhigh : c.toNat ≤ 126 := h.2
  omega

/-- What holds of the characters that a path can hold, one by one, holds of all of them. -/
theorem forall_pathChar {p : Char → Prop}
    (h : ∀ n : Fin 128, escapedInPath (Char.ofNat n) = false → p (Char.ofNat n)) (c : Char)
    (hc : escapedInPath c = false) : p c :=
  forall_ascii (p := fun c => escapedInPath c = false → p c) h c
    (lt_of_not_isControl (Bool.or_eq_false_iff.mp hc).1) hc

/-- What holds of the characters that a user name can hold, one by one, holds of all of them. -/
theorem forall_userChar {p : Char → Prop}
    (h : ∀ n : Fin 128, escapedInUser (Char.ofNat n) = false → p (Char.ofNat n)) (c : Char)
    (hc : escapedInUser c = false) : p c :=
  forall_pathChar (p := fun c => escapedInUser c = false → p c) (fun n _ => h n) c
    (escapedInPath_of_user hc) hc

end Tablewright.Url
