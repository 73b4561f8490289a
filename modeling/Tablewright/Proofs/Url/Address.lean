/-
Network addresses read back as they are written.

A run of empty groups that is left out is as long as groups are missing, and what
stands around it has fewer than eight of them, so reading fills in the same run.
-/
import Tablewright.Proofs.Text.Digits
import Tablewright.Url.Address

namespace Tablewright.Url

namespace Address

/-- Eight groups of sixteen bits. -/
structure WellFormed (a : Address) : Prop where
  length : a.groups.length = 8
  bound : ∀ g ∈ a.groups, g < 65536

variable {gs : List Nat}

/-! ### Groups -/

/-- The digits of a group. -/
def digits (g : Nat) : List Char :=
  Nat.toDigits 16 g

theorem digits_ne_nil (g : Nat) : digits g ≠ [] :=
  Nat.toDigits_ne_nil

theorem digits_full (gs : List Nat) : ∀ part ∈ gs.map digits, (!part.isEmpty) = true := by
  intro part hpart
  obtain ⟨g, -, rfl⟩ := List.mem_map.mp hpart
  simp [digits_ne_nil]

/-- No sign is a digit. -/
theorem notMem_digits {c : Char} (h : Text.hexValue? c = none) (g : Nat) : c ∉ digits g := by
  intro hmem
  have hread : Text.natural? 16 (digits g) = some g :=
    Text.natural?_toDigits (by decide) (by decide) g
  obtain ⟨value, hvalue, -⟩ :=
    Text.digit_of_naturalFrom? (Option.ite_none_left_eq_some.mp hread).2 c hmem
  rw [h] at hvalue
  cases hvalue

theorem groups?_digits (final : Bool) {g : Nat} (h : g < 65536) :
    groups? final (digits g) = some [g] := by
  have hlength : (digits g).length ≤ 4 :=
    (Nat.length_toDigits_le_iff (by decide) (by decide)).mpr h
  have hdot : (digits g).contains '.' = false := by
    simpa using notMem_digits (by decide) g
  unfold groups?
  simp only [hdot, Bool.and_false, Bool.false_eq_true, if_false, hlength, if_true]
  rw [digits, Text.natural?_toDigits (by decide) (by decide)]
  rfl

theorem run?_digits (final : Bool) (h : ∀ g ∈ gs, g < 65536) :
    run? final (gs.map digits) = some gs := by
  induction gs with
  | nil => rfl
  | cons g rest ih =>
      obtain ⟨hg, hrest⟩ := List.forall_mem_cons.mp h
      rw [List.map_cons, run?, groups?_digits _ hg, ih hrest]
      rfl

/-! ### Parts -/

theorem parts_eq_splitOn (separator : Char) (cs : List Char) :
    parts separator cs = cs.splitOn separator := by
  induction cs with
  | nil => rfl
  | cons c rest ih =>
      unfold List.splitOn at ih ⊢
      rw [parts, ih, List.splitOnP_cons_eq_if_modifyHead]
      cases hrest : rest.splitOnP (· == separator) with
      | nil => exact absurd hrest (List.splitOnP_ne_nil _ _)
      | cons first others => simp

/-- The parts that some groups are written in; no groups are one empty part. -/
def shown : List Nat → List (List Char)
  | [] => [[]]
  | g :: rest => (g :: rest).map digits

theorem parts_joined (gs : List Nat) : parts ':' (joined gs) = shown gs := by
  cases gs with
  | nil => rfl
  | cons g rest =>
      rw [parts_eq_splitOn]
      refine List.splitOn_intercalate ':' ?_ (List.cons_ne_nil _ _)
      intro part hpart
      obtain ⟨h, -, rfl⟩ := List.mem_map.mp hpart
      exact notMem_digits (by decide) h

theorem parts_gap (before after : List Nat) :
    parts ':' (joined before ++ [':', ':'] ++ joined after) = shown before ++ [] :: shown after := by
  have hcut (front back : List Char) :
      parts ':' (front ++ ':' :: back) = parts ':' front ++ parts ':' back := by
    simp only [parts_eq_splitOn]
    exact List.splitOnP_append_cons front back rfl
  have htext : joined before ++ [':', ':'] ++ joined after
      = joined before ++ ':' :: ([] ++ ':' :: joined after) := by
    simp
  rw [htext, hcut, hcut, parts_joined, parts_joined]
  rfl

/-! ### Gaps -/

section Gaps

variable {before after : List (List Char)} {first : List Char}

theorem ofParts?_front (hfirst : first ≠ []) :
    ofParts? ([] :: [] :: first :: after) = (run? true (first :: after)).bind (fill? []) := by
  cases first with
  | nil => exact absurd rfl hfirst
  | cons c more => rfl

theorem takeWhile_before (hfull : ∀ part ∈ before, (!part.isEmpty) = true) :
    (before ++ [] :: after).takeWhile (!·.isEmpty) = before :=
  Text.takeWhile_run hfull (by simp)

theorem dropWhile_before (hfull : ∀ part ∈ before, (!part.isEmpty) = true) :
    (before ++ [] :: after).dropWhile (!·.isEmpty) = [] :: after :=
  Text.dropWhile_run hfull (by simp)

theorem ofParts?_behind (hne : before ≠ []) (hfull : ∀ part ∈ before, (!part.isEmpty) = true) :
    ofParts? (before ++ [[], []]) = (run? false before).bind (fill? · []) := by
  unfold ofParts?
  rw [takeWhile_before hfull, dropWhile_before hfull]
  cases before with
  | nil => exact absurd rfl hne
  | cons part rest => rfl

theorem ofParts?_between (hne : before ≠ []) (hfull : ∀ part ∈ before, (!part.isEmpty) = true)
    (hfirst : first ≠ []) :
    ofParts? (before ++ [] :: first :: after) = (run? false before).bind fun front =>
      (run? true (first :: after)).bind (fill? front) := by
  unfold ofParts?
  rw [takeWhile_before hfull, dropWhile_before hfull]
  cases before with
  | nil => exact absurd rfl hne
  | cons part rest =>
      cases first with
      | nil => exact absurd rfl hfirst
      | cons c more => rfl

end Gaps

theorem fill?_eq {before after : List Nat} {missing : Nat} (hmissing : missing ≠ 0)
    (hlength : before.length + missing + after.length = 8) :
    fill? before after = some ⟨before ++ List.replicate missing 0 ++ after⟩ := by
  have hgap : 8 - before.length - after.length = missing := by omega
  unfold fill?
  rw [hgap]
  exact if_neg hmissing

/-- **The groups around a gap give the address with the gap filled in.** -/
theorem ofParts?_gap {before after : List Nat} {missing : Nat} (hmissing : missing ≠ 0)
    (hlength : before.length + missing + after.length = 8) (hbefore : ∀ g ∈ before, g < 65536)
    (hafter : ∀ g ∈ after, g < 65536) :
    ofParts? (shown before ++ [] :: shown after)
      = some ⟨before ++ List.replicate missing 0 ++ after⟩ := by
  have hfill := fill?_eq hmissing hlength
  cases before with
  | nil =>
      cases after with
      | nil =>
          obtain rfl : missing = 8 := by simpa using hlength
          rfl
      | cons g rest =>
          have hread : run? true (digits g :: rest.map digits) = some (g :: rest) :=
            run?_digits true hafter
          exact (ofParts?_front (digits_ne_nil g)).trans (by rw [hread, Option.bind_some, hfill])
  | cons b others =>
      have hne : (b :: others).map digits ≠ [] := by simp
      have hfront := run?_digits false hbefore
      cases after with
      | nil =>
          exact (ofParts?_behind hne (digits_full _)).trans (by rw [hfront, Option.bind_some, hfill])
      | cons g rest =>
          have hread : run? true (digits g :: rest.map digits) = some (g :: rest) :=
            run?_digits true hafter
          refine (ofParts?_between hne (digits_full _) (digits_ne_nil g)).trans ?_
          rw [hfront, Option.bind_some, hread, Option.bind_some, hfill]

/-- Eight groups without a gap are the address. -/
theorem ofParts?_full (hlength : gs.length = 8) (hbound : ∀ g ∈ gs, g < 65536) :
    ofParts? (shown gs) = some ⟨gs⟩ := by
  have hshown : shown gs = gs.map digits := by
    cases gs with
    | nil => cases hlength
    | cons g rest => rfl
  unfold ofParts?
  rw [hshown, Text.takeWhile_all (digits_full gs), Text.dropWhile_all (digits_full gs)]
  change ((run? true (gs.map digits)).bind fun groups =>
    if groups.length = 8 then some (Address.mk groups) else none) = _
  rw [run?_digits true hbound, Option.bind_some, if_pos hlength]

/-! ### Writing -/

/-- The empty groups at the front, and what follows them. -/
theorem replicate_leadingZeros (gs : List Nat) :
    List.replicate (leadingZeros gs) 0 ++ gs.drop (leadingZeros gs) = gs := by
  induction gs with
  | nil => rfl
  | cons g rest ih =>
      by_cases hg : g = 0
      · have hlength : leadingZeros (0 :: rest) = leadingZeros rest + 1 := rfl
        rw [hg, hlength, List.replicate_succ, List.drop_succ_cons, List.cons_append, ih]
      · have hlength : leadingZeros (g :: rest) = 0 := by
          simp [leadingZeros, hg]
        rw [hlength]
        rfl

/-- Where the longest run is said to be, there is a run of that length. -/
theorem longestRun_eq (gs : List Nat) :
    (longestRun gs).2 = 0 ∨ (longestRun gs).2 = leadingZeros (gs.drop (longestRun gs).1) := by
  refine List.foldlRecOn (motive := fun best : Nat × Nat =>
    best.2 = 0 ∨ best.2 = leadingZeros (gs.drop best.1)) _ _ (Or.inl rfl) ?_
  intro best hbest start _
  dsimp only
  split
  · exact Or.inr rfl
  · exact hbest

/-- **A written address reads back as it is.** -/
theorem parse?_text {a : Address} (h : a.WellFormed) : parse? a.text = some a := by
  obtain ⟨gs⟩ := a
  have hlength : gs.length = 8 := h.length
  have hbound : ∀ g ∈ gs, g < 65536 := h.bound
  have hrun := longestRun_eq gs
  unfold parse? text
  generalize longestRun gs = best at hrun ⊢
  obtain ⟨start, length⟩ := best
  dsimp only at hrun ⊢
  split
  · rw [parts_joined, ofParts?_full hlength hbound]
  · have hzeros : length = leadingZeros (gs.drop start) := by omega
    have hsplit : gs.take start ++ List.replicate length 0 ++ gs.drop (start + length) = gs := by
      rw [List.append_assoc, hzeros, ← List.drop_drop, replicate_leadingZeros,
        List.take_append_drop]
    have hcount := congrArg List.length hsplit
    rw [List.length_append, List.length_append, List.length_replicate, hlength] at hcount
    rw [parts_gap, ofParts?_gap (by omega) hcount (fun g hg => hbound g (List.mem_of_mem_take hg))
      (fun g hg => hbound g (List.mem_of_mem_drop hg)), hsplit]

/-! ### Reading -/

theorem decimals_lt {all : List (List Char)} {ns : List Nat} (h : all.mapM decimal? = some ns) :
    ∀ n ∈ ns, n < 256 := by
  induction all generalizing ns with
  | nil =>
      rw [← Option.some.inj h]
      exact List.forall_mem_nil _
  | cons part rest ih =>
      rw [List.mapM_cons] at h
      obtain ⟨n, hn, h⟩ := Option.bind_eq_some_iff.mp h
      obtain ⟨others, hothers, h⟩ := Option.bind_eq_some_iff.mp h
      have hlt : n < 256 := by
        unfold decimal? at hn
        split at hn
        · simpa using (Option.filter_eq_some_iff.mp hn).2
        · cases hn
      rw [← Option.some.inj h]
      exact List.forall_mem_cons.mpr ⟨hlt, ih hothers⟩

theorem groups?_lt {final : Bool} {part : List Char} (h : groups? final part = some gs) :
    ∀ g ∈ gs, g < 65536 := by
  unfold groups? at h
  split at h
  · obtain ⟨ns, hns, h⟩ := Option.bind_eq_some_iff.mp h
    have hlt := decimals_lt hns
    split at h
    · rename_i a b c d
      have ha : a < 256 := hlt a (by simp)
      have hb : b < 256 := hlt b (by simp)
      have hc : c < 256 := hlt c (by simp)
      have hd : d < 256 := hlt d (by simp)
      rw [← Option.some.inj h]
      simp only [List.forall_mem_cons]
      exact ⟨by omega, by omega, List.forall_mem_nil _⟩
    · cases h
  · obtain ⟨hlength, h⟩ := Option.ite_none_right_eq_some.mp h
    obtain ⟨n, hn, rfl⟩ := Option.map_eq_some_iff.mp h
    have hlt : n < 65536 :=
      Nat.lt_of_lt_of_le (Text.natural?_lt hn) (Nat.pow_le_pow_right (by decide) hlength)
    simpa using hlt

theorem run?_lt {final : Bool} {all : List (List Char)} (h : run? final all = some gs) :
    ∀ g ∈ gs, g < 65536 := by
  induction all generalizing gs with
  | nil =>
      rw [← Option.some.inj h]
      exact List.forall_mem_nil _
  | cons part rest ih =>
      obtain ⟨first, hfirst, h⟩ := Option.bind_eq_some_iff.mp h
      obtain ⟨others, hothers, h⟩ := Option.bind_eq_some_iff.mp h
      rw [← Option.some.inj h]
      exact List.forall_mem_append.mpr ⟨groups?_lt hfirst, ih hothers⟩

theorem wellFormed_of_fill? {before after : List Nat} {a : Address}
    (h : fill? before after = some a) (hbefore : ∀ g ∈ before, g < 65536)
    (hafter : ∀ g ∈ after, g < 65536) : a.WellFormed := by
  obtain ⟨hmissing, h⟩ := Option.ite_none_left_eq_some.mp h
  obtain rfl := Option.some.inj h
  refine ⟨?_, ?_⟩
  · simp only [List.length_append, List.length_replicate]
    omega
  · have hzeros : ∀ g ∈ List.replicate (8 - before.length - after.length) 0, g < 65536 := by
      intro g hg
      rw [List.eq_of_mem_replicate hg]
      decide
    exact List.forall_mem_append.mpr ⟨List.forall_mem_append.mpr ⟨hbefore, hzeros⟩, hafter⟩

/-- **What is read is an address.** -/
theorem wellFormed_of_parse? {cs : List Char} {a : Address} (h : parse? cs = some a) :
    a.WellFormed := by
  unfold parse? ofParts? at h
  split at h
  · -- no gap
    obtain ⟨groups, hgroups, h⟩ := Option.bind_eq_some_iff.mp h
    obtain ⟨hlength, h⟩ := Option.ite_none_right_eq_some.mp h
    obtain rfl := Option.some.inj h
    exact ⟨hlength, run?_lt hgroups⟩
  · -- nothing but a gap
    obtain rfl := Option.some.inj h
    refine ⟨rfl, ?_⟩
    intro g hg
    rw [List.eq_of_mem_replicate hg]
    decide
  · obtain ⟨after, hafter, h⟩ := Option.bind_eq_some_iff.mp h
    exact wellFormed_of_fill? h (List.forall_mem_nil _) (run?_lt hafter)
  · cases h
  · cases h
  · obtain ⟨before, hbefore, h⟩ := Option.bind_eq_some_iff.mp h
    exact wellFormed_of_fill? h (run?_lt hbefore) (List.forall_mem_nil _)
  · obtain ⟨before, hbefore, h⟩ := Option.bind_eq_some_iff.mp h
    obtain ⟨after, hafter, h⟩ := Option.bind_eq_some_iff.mp h
    exact wellFormed_of_fill? h (run?_lt hbefore) (run?_lt hafter)

end Address

end Tablewright.Url
