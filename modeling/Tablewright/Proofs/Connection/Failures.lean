/-
What a failure to resolve tells of the password.

A connection whose host cannot stand in a connect string is refused by its place,
in which neither user nor password stand.  A connect string that cannot be taken
apart is refused with its whole text instead.  Nothing in front of its last at sign
decides whether it is, so the same string with another password is refused for the
same reason, but not in the same words.
-/
import Tablewright.Proofs.Connection
import Tablewright.Proofs.Url.Login

namespace Tablewright

open Url (IsLogin cleanedEnd isAlphanumeric loginString parsePlace userOf)

/-! ### Places -/

/-- Why a host cannot stand in a connect string. -/
inductive RefusesHost (host : String) : (reason : String) → Prop
  | fault {fault : Url.Fault} (h : Url.hostOfText host.toList = .error fault) :
      RefusesHost host fault.message
  | empty (h : Url.hostOfText host.toList = .ok []) : RefusesHost host "cannot set port"

/-- **Only the host is refused, and the refusal names the place.** -/
theorem Connection.ofObject_eq_error_iff {o : ConnectionObject} {f : Failure} :
    Connection.ofObject o = .error f ↔
      ∃ reason, RefusesHost o.host reason ∧ f = .malformedConnectString o.place reason := by
  unfold Connection.ofObject
  rw [bind_eq_error_iff, mapError_eq_error_iff]
  constructor
  · rintro (⟨fault, hfault, rfl⟩ | ⟨host, hhost, hrest⟩)
    · exact ⟨_, .fault hfault, rfl⟩
    · split at hrest
      · rename_i hempty
        rw [List.isEmpty_iff.mp hempty, mapError_eq_ok_iff] at hhost
        exact ⟨_, .empty hhost, (Except.error.inj hrest).symm⟩
      · cases hrest
  · rintro ⟨_, hfault | hempty, rfl⟩
    · exact Or.inl ⟨_, hfault, rfl⟩
    · exact Or.inr ⟨[], mapError_eq_ok_iff.mpr hempty, rfl⟩

/-- Two connections at one place, by whichever user and password. -/
structure ConnectionObject.SamePlace (a b : ConnectionObject) : Prop where
  host : a.host = b.host
  port : a.port = b.port
  database : a.database = b.database

theorem ConnectionObject.SamePlace.ofObject_error {a b : ConnectionObject} (h : a.SamePlace b)
    {f : Failure} (hf : Connection.ofObject a = .error f) : Connection.ofObject b = .error f := by
  have hplace : a.place = b.place := by
    unfold place
    rw [h.host, h.port, h.database]
  rw [Connection.ofObject_eq_error_iff] at hf ⊢
  rwa [h.host, hplace] at hf

/-- **Parts that differ in the password alone are refused in the same words.** -/
theorem ConnectionParts.fill_password_error {parts : ConnectionParts} {p q : Option String}
    {defaults : ConnectionDefaults} {f : Failure}
    (hf : { parts with password := p }.fill defaults = .error f) :
    { parts with password := q }.fill defaults = .error f := by
  unfold fill at hf ⊢
  refine ConnectionObject.SamePlace.ofObject_error ?_ hf
  exact ⟨rfl, rfl, rfl⟩

/-! ### Connect strings -/

/-- A connect string that names a user, taken apart. -/
theorem ConnectionParts.ofString_loginString {u : Url.User} (hu : IsLogin u.text)
    {after : List Char} (hat : '@' ∉ after) :
    ofString (loginString u after) = match parsePlace (cleanedEnd after) with
      | .error fault => .error (.malformedConnectString (loginString u after) fault.message)
      | .ok parts => .ok (ofUrl { parts with user := userOf u.text }) := by
  unfold ofString
  rw [Url.parse_loginString hu hat]
  cases parsePlace (cleanedEnd after) <;> rfl

/-- What was taken apart with a host resolves. -/
theorem ConnectionParts.exists_fill_ofUrl {u : Url.Parts} (hne : u.host ≠ [])
    (hhost : Url.hostOfText u.host = .ok u.host) (defaults : ConnectionDefaults) :
    ∃ c, (ofUrl u).fill defaults = .ok c := by
  have hgiven : (ofUrl u).host = some (String.ofList u.host) := by
    simp [ofUrl, hne]
  unfold fill
  rw [hgiven, Option.getD_some]
  refine ⟨_, Connection.ofObject_eq_ok_iff.mpr ⟨u.host, ?_, hne, rfl⟩⟩
  rw [String.toList_ofList, hhost]

/-- **A connect string that names a user resolves unless it cannot be taken apart**, and then it is
refused with its whole text. -/
theorem resolve_loginString_eq_error_iff {u : Url.User} (hu : IsLogin u.text) {after : List Char}
    (hat : '@' ∉ after) (defaults : ConnectionDefaults) {f : Failure} :
    (Target.url (loginString u after)).resolve defaults = .error f ↔
      ∃ fault, parsePlace (cleanedEnd after) = .error fault ∧
        f = .malformedConnectString (loginString u after) fault.message := by
  rw [resolve_url, ConnectionParts.ofString_loginString hu hat]
  cases hplace : parsePlace (cleanedEnd after) with
  | error fault =>
      simp only [error_bind, Except.error.injEq, exists_eq_left']
      exact eq_comm
  | ok parts =>
      obtain ⟨hne, hhost⟩ := Url.host_of_parsePlace hplace
      obtain ⟨c, hc⟩ := ConnectionParts.exists_fill_ofUrl
        (u := { parts with user := userOf u.text }) hne hhost defaults
      simp [hc]

theorem loginString_inj {user p q after : List Char} :
    loginString ⟨user, some p⟩ after = loginString ⟨user, some q⟩ after ↔ p = q := by
  unfold loginString Url.User.text
  rw [String.ofList_inj]
  simp

/-- **The words of a failure, for another password.**  A connect string that names a user is refused
with the password it was given in it, so in other words for every other password; parts are refused
in the same words. -/
theorem resolve_password_error (defaults : ConnectionDefaults) :
    (∀ user p q after : List Char, user ≠ [] → (∀ c ∈ user, isAlphanumeric c = true) →
      (∀ c ∈ p, isAlphanumeric c = true) → (∀ c ∈ q, isAlphanumeric c = true) → '@' ∉ after →
      ∀ f, (Target.url (loginString ⟨user, some p⟩ after)).resolve defaults = .error f →
        ∃ g reason, (Target.url (loginString ⟨user, some q⟩ after)).resolve defaults = .error g ∧
          f = .malformedConnectString (loginString ⟨user, some p⟩ after) reason ∧
          g = .malformedConnectString (loginString ⟨user, some q⟩ after) reason ∧
          (f = g ↔ p = q)) ∧
    ∀ (parts : ConnectionParts) (p q : Option String) (f : Failure),
      (Target.parts { parts with password := p }).resolve defaults = .error f →
        (Target.parts { parts with password := q }).resolve defaults = .error f := by
  constructor
  · intro user p q after hne huser hp hq hat f hf
    obtain ⟨fault, hplace, rfl⟩ :=
      (resolve_loginString_eq_error_iff (Url.isLogin_text hne huser hp) hat defaults).mp hf
    have hother := (resolve_loginString_eq_error_iff (Url.isLogin_text hne huser hq) hat
      defaults).mpr ⟨fault, hplace, rfl⟩
    refine ⟨_, fault.message, hother, rfl, rfl, ?_⟩
    rw [Failure.malformedConnectString.injEq, loginString_inj]
    simp
  · intro parts p q f hf
    exact ConnectionParts.fill_password_error hf

/-- A port that is none, and a host that is none. -/
theorem resolve_password_error_shop :
    (∃ f g, (Target.url "postgresql://admin:alpha1@db:99999/shop").resolve {} = .error f ∧
      (Target.url "postgresql://admin:beta2@db:99999/shop").resolve {} = .error g ∧ f ≠ g) ∧
    ∃ f, (Target.parts { host := some "my db", password := some "alpha1" }).resolve {} = .error f ∧
      (Target.parts { host := some "my db", password := some "beta2" }).resolve {} = .error f := by
  obtain ⟨hstrings, hparts⟩ := resolve_password_error {}
  constructor
  · have hfails : (Target.url "postgresql://admin:alpha1@db:99999/shop").resolve {}
        = .error (.malformedConnectString "postgresql://admin:alpha1@db:99999/shop"
          "invalid port number") := by
      rfl
    obtain ⟨g, reason, hg, -, -, hsame⟩ := hstrings "admin".toList "alpha1".toList "beta2".toList
      "db:99999/shop".toList (by decide) (List.all_eq_true.mp rfl) (List.all_eq_true.mp rfl)
      (List.all_eq_true.mp rfl) (by decide) _ hfails
    refine ⟨_, g, hfails, hg, fun heq => ?_⟩
    exact absurd (hsame.mp heq) (by decide)
  · have hfails : (Target.parts { host := some "my db", password := some "alpha1" }).resolve {}
        = .error (.malformedConnectString "my db:5432/postgres" "invalid domain character") := by
      rfl
    exact ⟨_, hfails, hparts { host := some "my db" } (some "alpha1") (some "beta2") _ hfails⟩

/-- The password can be read off the failure. -/
theorem resolve_password_shown :
    (Target.url "postgresql://admin:alpha1@db:99999/shop").resolve {}
        = .error (.malformedConnectString "postgresql://admin:alpha1@db:99999/shop"
          "invalid port number") ∧
      (Target.url "postgresql://admin:beta2@db:99999/shop").resolve {}
        ≠ (Target.url "postgresql://admin:alpha1@db:99999/shop").resolve {} := by
  have hgiven : (Target.url "postgresql://admin:alpha1@db:99999/shop").resolve {}
      = .error (.malformedConnectString "postgresql://admin:alpha1@db:99999/shop"
        "invalid port number") := by
    rfl
  have hother : (Target.url "postgresql://admin:beta2@db:99999/shop").resolve {}
      = .error (.malformedConnectString "postgresql://admin:beta2@db:99999/shop"
        "invalid port number") := by
    rfl
  refine ⟨hgiven, ?_⟩
  rw [hgiven, hother]
  simp

end Tablewright
