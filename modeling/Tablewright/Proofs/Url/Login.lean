/-
Connect strings that name a user.

The last at sign is where the user's part ends.  What follows it is taken apart on
its own: whether that succeeds, and with which host, port and path, does not depend
on who is named in front of it.
-/
import Tablewright.Proofs.Url
import Tablewright.Text.Letter
import Tablewright.Text.Numeral

namespace Tablewright.Url

/-- A letter or a numeral. -/
def isAlphanumeric (c : Char) : Bool :=
  Text.isLetter c || Text.isNumeral c

/-- A user's part that stands in a connect string as it is, up to the at sign behind it. -/
structure IsLogin (login : List Char) : Prop where
  ne_nil : login ≠ []
  ne_colon : login ≠ [':']
  unblank : ∀ c ∈ login, ' ' < c
  within : ∀ c ∈ login, endsAuthority .general c = false

/-- Takes apart what follows the at sign. -/
def parsePlace (after : List Char) : Except Fault Parts := do
  let hostAndPort := after.takeWhile fun c => !endsAuthority .general c
  let path := after.dropWhile fun c => !endsAuthority .general c
  let (hostText, rest) := splitHost false hostAndPort
  let host ← hostOf hostText
  if host.isEmpty then throw .emptyHost
  let (port, rest) ← splitPort rest
  pure { host, port, path := pathOf (rest ++ path) }

/-! ### Letters and numerals -/

/-- A letter or a numeral is no blank and no separator. -/
theorem plain_of_isAlphanumeric {c : Char} (h : isAlphanumeric c = true) :
    ' ' < c ∧ endsAuthority .general c = false ∧ c ≠ ':' := by
  rcases Nat.lt_or_ge c.toNat 128 with hascii | hbeyond
  · exact forall_ascii (p := fun c => isAlphanumeric c = true →
      ' ' < c ∧ endsAuthority .general c = false ∧ c ≠ ':') (by decide) c hascii h
  · have hne {d : Char} (hd : d.toNat < 128) : c ≠ d := by
      rintro rfl
      omega
    refine ⟨?_, ?_, hne (by decide)⟩
    · have hblank : (' ' : Char).toNat < c.toNat := Nat.lt_of_lt_of_le (by decide) hbeyond
      exact hblank
    · have hslash : c ≠ '/' := hne (by decide)
      have hquery : c ≠ '?' := hne (by decide)
      have hfragment : c ≠ '#' := hne (by decide)
      simp [endsAuthority, hslash, hquery, hfragment]

theorem isLogin_text {user password : List Char} (hne : user ≠ [])
    (huser : ∀ c ∈ user, isAlphanumeric c = true)
    (hpassword : ∀ c ∈ password, isAlphanumeric c = true) :
    IsLogin (User.text ⟨user, some password⟩) := by
  have htext : User.text ⟨user, some password⟩ = user ++ ':' :: password := rfl
  obtain ⟨first, more, rfl⟩ := List.exists_cons_of_ne_nil hne
  have hchars : ∀ c ∈ User.text ⟨first :: more, some password⟩,
      c = ':' ∨ isAlphanumeric c = true := by
    intro c hc
    rcases User.mem_text hc with hcolon | hname | ⟨_, ⟨⟩, hmem⟩
    · exact Or.inl hcolon
    · exact Or.inr (huser c hname)
    · exact Or.inr (hpassword c hmem)
  refine ⟨by simp [htext], by simp [htext], ?_, ?_⟩
  · intro c hc
    rcases hchars c hc with rfl | halnum
    · decide
    · exact (plain_of_isAlphanumeric halnum).1
  · intro c hc
    rcases hchars c hc with rfl | halnum
    · decide
    · exact (plain_of_isAlphanumeric halnum).2.1

/-! ### Taking apart -/

/-- **The user's part and what follows it are taken apart on their own.** -/
theorem parseAuthority_login {login after : List Char} (hlogin : IsLogin login) (hat : '@' ∉ after) :
    parseAuthority (login ++ '@' :: after)
      = (parsePlace after).map fun parts => { parts with user := userOf login } := by
  have hfront : ∀ c ∈ login ++ ['@'], (!endsAuthority .general c) = true := by
    intro c hc
    rcases List.mem_append.mp hc with hmem | hmem
    · simp [hlogin.within c hmem]
    · rw [List.mem_singleton.mp hmem]
      decide
  have htext : login ++ '@' :: after = (login ++ ['@']) ++ after := by
    simp
  have hsplit : splitUser ((login ++ ['@']) ++ after.takeWhile fun c => !endsAuthority .general c)
      = (some login, after.takeWhile fun c => !endsAuthority .general c) := by
    rw [List.append_assoc, List.singleton_append]
    exact splitUser_append login fun hmem => hat (List.takeWhile_subset _ hmem)
  have hnamed : decide (some login = some []) = false := by
    simp [hlogin.ne_nil]
  have hwho : (some login).any (fun u => decide (u ≠ []) && decide (u ≠ [':'])) = true := by
    simp [hlogin.ne_nil, hlogin.ne_colon]
  unfold parseAuthority parsePlace
  rw [htext, List.takeWhile_append_of_pos hfront, List.dropWhile_append_of_pos hfront]
  simp only [hsplit, hnamed, hwho, Bool.false_and, Bool.and_true, Bool.false_eq_true, if_false]
  generalize splitHost false (after.takeWhile fun c => !endsAuthority .general c) = cut
  obtain ⟨hostText, rest⟩ := cut
  dsimp only
  cases hostOf hostText with
  | error fault => rfl
  | ok host =>
      rw [ok_bind, ok_bind]
      cases host with
      | nil => cases rest <;> rfl
      | cons c more =>
          dsimp only [List.isEmpty_cons]
          cases splitPort rest <;> rfl

/-- A place that was taken apart has a host, which is one on its own. -/
theorem host_of_parsePlace {after : List Char} {parts : Parts} (h : parsePlace after = .ok parts) :
    parts.host ≠ [] ∧ hostOfText parts.host = .ok parts.host := by
  obtain ⟨host, hhost, h⟩ := bind_eq_ok_iff.mp h
  split at h
  · cases h
  · rename_i hne
    obtain ⟨port, -, h⟩ := bind_eq_ok_iff.mp h
    rw [← Except.ok.inj h]
    exact ⟨by simpa using hne, hostOfText_hostOf hhost⟩

/-- **A connect string that names a user**, taken apart. -/
theorem parse_loginString {u : User} (hu : IsLogin u.text) {after : List Char} (hat : '@' ∉ after) :
    parse (loginString u after) = (parsePlace (cleanedEnd after)).map fun parts =>
      ("postgresql", some { parts with user := userOf u.text }) := by
  have hfront : ∀ c ∈ u.text ++ ['@'], ' ' < c := by
    intro c hc
    rcases List.mem_append.mp hc with hmem | hmem
    · exact hu.unblank c hmem
    · rw [List.mem_singleton.mp hmem]
      decide
  have hcleaned : cleanedEnd (u.text ++ '@' :: after) = u.text ++ '@' :: cleanedEnd after := by
    rw [List.append_cons, cleanedEnd_append hfront, ← List.append_cons]
  have hatCleaned : '@' ∉ cleanedEnd after := fun hmem => hat (mem_of_mem_cleanedEnd hmem)
  unfold loginString
  rw [parse_postgresql, hcleaned, parseAuthority_login hu hatCleaned]
  cases parsePlace (cleanedEnd after) <;> rfl

end Tablewright.Url
