/-
Connect strings that were written are taken apart into what they were written of.

The characters that separate the parts are escaped in the parts, and a host of
letters, digits, dots and hyphens has none of them.  So the first place at which
a separator stands is the place where it was written.
-/
import Tablewright.Proofs.Result
import Tablewright.Proofs.Text.Digits
import Tablewright.Proofs.Url.Host
import Tablewright.Proofs.Url.Path
import Tablewright.Url

namespace Tablewright.Url

/-! ### Characters of the parts -/

/-- A character of a plain host: an ASCII letter, a digit, a dot or a hyphen. -/
def isHostChar (c : Char) : Bool :=
  c.isAlphanum || c = '.' || c = '-'

/-- The user's part as it is written in a connect string. -/
def User.text (u : User) : List Char :=
  u.name ++ u.password.elim [] (':' :: ·)

/-- The connect string of a user's part and what follows its at sign. -/
def loginString (u : User) (after : List Char) : String :=
  String.ofList ("postgresql://".toList ++ (u.text ++ '@' :: after))

/-- A host, a port and a path as they are written in a connect string. -/
def placeText (host : List Char) (port : Port) (path : List Char) : List Char :=
  host ++ ':' :: (portText port ++ '/' :: path)

/-- A user's part in which all separators are escaped and whose password is not empty. -/
structure User.Written (u : User) : Prop where
  password_ne : u.password ≠ some []
  name : ∀ c ∈ u.name, escapedInUser c = false
  password : ∀ p ∈ u.password, ∀ c ∈ p, escapedInUser c = false

theorem lt_of_isAlphanum {c : Char} (h : c.isAlphanum = true) : c.toNat < 128 := by
  rcases (Bool.or_eq_true _ _).mp h with halpha | hdigit
  · rcases (Bool.or_eq_true _ _).mp halpha with hupper | hlower
    · have hle : c.toNat ≤ 90 := (of_decide_eq_true hupper).2
      omega
    · have hle : c.toNat ≤ 122 := of_decide_eq_true ((Bool.and_eq_true _ _).mp hlower).2
      omega
  · have hle : c.toNat ≤ 57 := of_decide_eq_true ((Bool.and_eq_true _ _).mp hdigit).2
    omega

theorem lt_of_isHostChar {c : Char} (h : isHostChar c = true) : c.toNat < 128 := by
  simp only [isHostChar, Bool.or_eq_true, decide_eq_true_eq] at h
  rcases h with (halnum | rfl) | rfl
  · exact lt_of_isAlphanum halnum
  · decide
  · decide

/-- What holds of the characters that a plain host can hold, one by one, holds of all of them. -/
theorem forall_hostChar {p : Char → Prop}
    (h : ∀ n : Fin 128, isHostChar (Char.ofNat n) = true → p (Char.ofNat n)) (c : Char)
    (hc : isHostChar c = true) : p c :=
  forall_ascii (p := fun c => isHostChar c = true → p c) h c (lt_of_isHostChar hc) hc

theorem isHostChar_of_mem_portText {p : Port} {c : Char} (h : c ∈ portText p) :
    isHostChar c = true := by
  have halnum : c.isAlphanum = true :=
    (Bool.or_eq_true _ _).mpr (Or.inr (Text.isDigit_of_mem_decimal h))
  simp [isHostChar, halnum]

theorem User.mem_text {u : User} {c : Char} (h : c ∈ u.text) :
    c = ':' ∨ c ∈ u.name ∨ ∃ p ∈ u.password, c ∈ p := by
  obtain ⟨name, password⟩ := u
  rcases List.mem_append.mp h with hname | hpassword
  · exact Or.inr (Or.inl hname)
  cases password with
  | none => cases hpassword
  | some password =>
      rcases List.mem_cons.mp hpassword with hcolon | hmem
      · exact Or.inl hcolon
      · exact Or.inr (Or.inr ⟨password, rfl, hmem⟩)

/-- A user's part holds no separator but its colon. -/
theorem User.Written.plain {u : User} (h : u.Written) {c : Char} (hc : c ∈ u.text) :
    c = ':' ∨ escapedInUser c = false := by
  rcases User.mem_text hc with hcolon | hname | ⟨p, hp, hcp⟩
  · exact Or.inl hcolon
  · exact Or.inr (h.name c hname)
  · exact Or.inr (h.password p hp c hcp)

/-! ### Cutting at separators -/

theorem splitUser_of_notMem {cs : List Char} (h : '@' ∉ cs) : splitUser cs = (none, cs) := by
  induction cs with
  | nil => rfl
  | cons c rest ih =>
      rw [List.mem_cons, not_or] at h
      rw [splitUser, ih h.2]
      exact if_neg (Ne.symm h.1)

theorem splitUser_append (before : List Char) {after : List Char} (h : '@' ∉ after) :
    splitUser (before ++ '@' :: after) = (some before, after) := by
  induction before with
  | nil =>
      rw [List.nil_append, splitUser, splitUser_of_notMem h]
      rfl
  | cons c rest ih =>
      rw [List.cons_append, splitUser, ih]

theorem splitHost_append {host : List Char} (h : ∀ c ∈ host, isHostChar c = true)
    (after : List Char) : splitHost false (host ++ ':' :: after) = (host, ':' :: after) := by
  induction host with
  | nil => simp [splitHost]
  | cons c rest ih =>
      rw [List.forall_mem_cons] at h
      have hcolon : c ≠ ':' := by
        rintro rfl
        cases h.1
      have hbracket : c ≠ '[' := by
        rintro rfl
        cases h.1
      simp [splitHost, hcolon, hbracket, ih h.2]

theorem port?_portText (p : Port) : port? (portText p) = some p := by
  unfold port? portText
  rw [Text.natural?_decimal]
  simp

theorem splitPort_portText (p : Port) : splitPort (':' :: portText p) = .ok (some p, []) := by
  have hdigit : ∀ c ∈ portText p, c.isDigit = true := fun c hc => Text.isDigit_of_mem_decimal hc
  have hne : portText p ≠ [] := Nat.toDigits_ne_nil
  simp [splitPort, Text.takeWhile_all hdigit, Text.dropWhile_all hdigit, port?_portText, hne]
  rfl

theorem isClean_of_isHostChar (c : Char) (h : isHostChar c = true) : IsClean c :=
  forall_hostChar (by decide) c h

theorem hostOf_plain {host : List Char} (h : ∀ c ∈ host, isHostChar c = true) :
    hostOf host = .ok host :=
  hostOf_clean fun c hc => isClean_of_isHostChar c (h c hc)

theorem hostOfText_plain {host : List Char} (h : ∀ c ∈ host, isHostChar c = true) :
    hostOfText host = .ok host :=
  hostOfText_clean fun c hc => isClean_of_isHostChar c (h c hc)

theorem userOf_text {u : User} (h : u.Written) : userOf u.text = u := by
  obtain ⟨name, password⟩ := u
  have hcolon : ∀ c ∈ name, decide (c ≠ ':') = true := by
    intro c hc
    rw [decide_eq_true_eq]
    rintro rfl
    have hplain := h.name ':' hc
    cases hplain
  have hname : encode escapedInUser name = name := encode_of_plain h.name
  unfold userOf User.text
  cases password with
  | none =>
      dsimp only [Option.elim]
      rw [List.append_nil, Text.takeWhile_all hcolon, Text.dropWhile_all hcolon, hname]
  | some password =>
      dsimp only [Option.elim]
      rw [Text.takeWhile_run hcolon (by simp), Text.dropWhile_run hcolon (by simp), hname]
      cases password with
      | nil => exact absurd rfl h.password_ne
      | cons c rest => simp [encode_of_plain (h.password (c :: rest) rfl)]

theorem pathOf_slash {path : List Char} (h : ∀ c ∈ path, escapedInPath c = false) :
    pathOf ('/' :: path) = normalizedPath path := by
  have hquery : ∀ c ∈ '/' :: path, (!(decide (c = '?') || decide (c = '#'))) = true := by
    intro c hc
    rcases List.mem_cons.mp hc with rfl | hpath
    · decide
    · exact forall_pathChar (p := fun c => (!(decide (c = '?') || decide (c = '#'))) = true)
        (by decide) c (h c hpath)
  unfold pathOf beforeQuery
  rw [Text.takeWhile_all hquery]
  rfl

theorem not_endsAuthority_of_isHostChar (c : Char) (h : isHostChar c = true) :
    (!endsAuthority .general c) = true :=
  forall_hostChar (p := fun c => (!endsAuthority .general c) = true) (by decide) c h

/-! ### Whole connect strings -/

theorem parseAuthority_written {u : User} (hu : u.Written) {host : List Char} (hne : host ≠ [])
    (hhost : ∀ c ∈ host, isHostChar c = true) (port : Port) {path : List Char}
    (hpath : ∀ c ∈ path, escapedInPath c = false) :
    parseAuthority (u.text ++ '@' :: placeText host port path)
      = .ok ⟨u, host, some port, normalizedPath path⟩ := by
  have hauthority : ∀ c ∈ u.text ++ '@' :: (host ++ ':' :: portText port),
      (!endsAuthority .general c) = true := by
    intro c hc
    rw [List.mem_append, List.mem_cons, List.mem_append, List.mem_cons] at hc
    rcases hc with huser | rfl | hhostChar | rfl | hportChar
    · rcases hu.plain huser with rfl | hplain
      · decide
      · exact forall_userChar (p := fun c => (!endsAuthority .general c) = true) (by decide) c hplain
    · decide
    · exact not_endsAuthority_of_isHostChar c (hhost c hhostChar)
    · decide
    · exact not_endsAuthority_of_isHostChar c (isHostChar_of_mem_portText hportChar)
  have hat : '@' ∉ host ++ ':' :: portText port := by
    intro hmem
    rw [List.mem_append, List.mem_cons] at hmem
    rcases hmem with hhostChar | hcolon | hportChar
    · cases hhost '@' hhostChar
    · cases hcolon
    · cases isHostChar_of_mem_portText hportChar
  have hslash : ∀ c ∈ ('/' :: path).head?, (!endsAuthority .general c) = false := by
    simp [endsAuthority]
  have htext : u.text ++ '@' :: placeText host port path
      = (u.text ++ '@' :: (host ++ ':' :: portText port)) ++ '/' :: path := by
    simp [placeText]
  simp only [parseAuthority, htext, Text.takeWhile_run hauthority hslash,
    Text.dropWhile_run hauthority hslash, splitUser_append _ hat, splitHost_append hhost,
    hostOf_plain hhost, splitPort_portText, ok_bind]
  simp [hne, userOf_text hu, pathOf_slash hpath]
  rfl

/-- The text without the blanks at its end and without tabs and line breaks. -/
def cleanedEnd (cs : List Char) : List Char :=
  ((cs.reverse.dropWhile (· ≤ ' ')).reverse).filter isKept

/-- What stands before the last characters that are no blanks is kept, except for tabs and line
breaks. -/
theorem cleanedEnd_append {before : List Char} (h : ∀ c ∈ before, ' ' < c) (after : List Char) :
    cleanedEnd (before ++ after) = before ++ cleanedEnd after := by
  have hblank : ∀ c ∈ before.reverse, decide (c ≤ ' ') = false := by
    intro c hc
    simpa using h c (List.mem_reverse.mp hc)
  have hkept : before.filter isKept = before := by
    refine List.filter_eq_self.mpr fun c hc => ?_
    have hne {d : Char} (hd : ¬ ' ' < d) : c ≠ d := by
      rintro rfl
      exact hd (h c hc)
    have htab : c ≠ '\t' := hne (by decide)
    have hfeed : c ≠ '\n' := hne (by decide)
    have hreturn : c ≠ '\r' := hne (by decide)
    simp [isKept, htab, hfeed, hreturn]
  have htrimmed : ((before ++ after).reverse.dropWhile (· ≤ ' ')).reverse
      = before ++ (after.reverse.dropWhile (· ≤ ' ')).reverse := by
    rw [List.reverse_append, List.dropWhile_append, Text.dropWhile_none hblank]
    split
    · rename_i hempty
      simp [List.isEmpty_iff.mp hempty]
    · simp
  unfold cleanedEnd
  rw [htrimmed, List.filter_append, hkept]

/-- A text without blanks is taken as it is. -/
theorem cleanedEnd_of_unblank {cs : List Char} (h : ∀ c ∈ cs, ' ' < c) : cleanedEnd cs = cs := by
  have happend := cleanedEnd_append h []
  rwa [List.append_nil, show cleanedEnd [] = [] from rfl, List.append_nil] at happend

theorem mem_of_mem_cleanedEnd {cs : List Char} {c : Char} (h : c ∈ cleanedEnd cs) : c ∈ cs := by
  have htrimmed := List.mem_reverse.mp (List.mem_filter.mp h).1
  exact List.mem_reverse.mp (List.dropWhile_subset _ htrimmed)

theorem splitScheme_postgresql (cs : List Char) :
    splitScheme ("postgresql://".toList ++ cs) = .ok ("postgresql".toList, '/' :: '/' :: cs) := by
  rfl

/-- Behind the scheme a connect string is taken apart as an authority and a path. -/
theorem parse_postgresql (cs : List Char) :
    parse (String.ofList ("postgresql://".toList ++ cs))
      = (parseAuthority (cleanedEnd cs)).map fun parts => ("postgresql", some parts) := by
  have hunblank : ∀ c ∈ "postgresql://".toList, ' ' < c := by
    have hletters : ("postgresql://".toList.all fun d => ' ' < d) = true := rfl
    exact fun c hc => of_decide_eq_true (List.all_eq_true.mp hletters c hc)
  have hcleaned : cleaned ("postgresql://".toList ++ cs)
      = "postgresql://".toList ++ cleanedEnd cs := by
    rw [← cleanedEnd_append hunblank]
    rfl
  have hkind : Kind.ofScheme "postgresql".toList = .general := by decide
  have hgeneral (rest : List Char) : parseGeneral ('/' :: '/' :: rest) = parseAuthority rest := rfl
  unfold parse
  rw [String.toList_ofList, hcleaned, splitScheme_postgresql, ok_bind]
  simp only [hkind, hgeneral, String.ofList_toList]
  cases parseAuthority (cleanedEnd cs) with
  | ok parts => rfl
  | error fault => rfl

/-- No character of a connect string that was written is a blank. -/
theorem unblank_of_written {u : User} (hu : u.Written) {host : List Char}
    (hhost : ∀ c ∈ host, isHostChar c = true) (port : Port) {path : List Char}
    (hpath : ∀ c ∈ path, escapedInPath c = false) :
    ∀ c ∈ u.text ++ '@' :: placeText host port path, ' ' < c := by
  have hhostChar (c : Char) (hc : isHostChar c = true) : ' ' < c :=
    forall_hostChar (by decide) c hc
  have hpathChar (c : Char) (hc : escapedInPath c = false) : ' ' < c :=
    forall_pathChar (by decide) c hc
  intro c hc
  simp only [placeText, List.mem_append, List.mem_cons] at hc
  rcases hc with huser | rfl | hhostMem | rfl | hport | rfl | hpathMem
  · rcases hu.plain huser with rfl | huserChar
    · decide
    · exact hpathChar c (escapedInPath_of_user huserChar)
  · decide
  · exact hhostChar c (hhost c hhostMem)
  · decide
  · exact hhostChar c (isHostChar_of_mem_portText hport)
  · decide
  · exact hpathChar c (hpath c hpathMem)

/-- **A connect string that was written is taken apart into what it was written of.** -/
theorem parse_written {u : User} (hu : u.Written) {host : List Char} (hne : host ≠ [])
    (hhost : ∀ c ∈ host, isHostChar c = true) (port : Port) {path : List Char}
    (hpath : ∀ c ∈ path, escapedInPath c = false) :
    parse (loginString u (placeText host port path))
      = .ok ("postgresql", some ⟨u, host, some port, normalizedPath path⟩) := by
  unfold loginString
  rw [parse_postgresql, cleanedEnd_of_unblank (unblank_of_written hu hhost port hpath),
    parseAuthority_written hu hne hhost port hpath]
  rfl

end Tablewright.Url
