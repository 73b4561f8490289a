/-
Where the parts of a connection come from.

Parts that are laid over others take their places and leave the rest, so laying
over is associative and empty parts change nothing.  Of a stack of layers each part
is the one of the uppermost layer that gives it.  The command line is laid over the
configuration, and that over the variables of the environment and the built-in
parts, which are all there but the password.

A connect string is no layer: it is the whole target, or it is given up as a whole.
-/
import Tablewright.CommandLine.Options
import Tablewright.Proofs.Connection

namespace Tablewright

/-! ### Layers -/

namespace ConnectionParts

theorem overlay_assoc (a b c : ConnectionParts) :
    (a.overlay b).overlay c = a.overlay (b.overlay c) := by
  simp [overlay, Option.or_assoc]

@[simp] theorem overlay_empty (a : ConnectionParts) : a.overlay {} = a := rfl

@[simp] theorem empty_overlay (a : ConnectionParts) : overlay {} a = a := by
  simp [overlay]

/-- Layers of parts, the first of them uppermost. -/
def stack (layers : List ConnectionParts) : ConnectionParts :=
  layers.foldr (fun upper base => base.overlay upper) {}

/-- A part that is laid over like all others: the upper one counts where it is given. -/
structure IsLaidOver {α : Type} (part : ConnectionParts → Option α) : Prop where
  empty : part {} = none
  overlay : ∀ base upper, part (base.overlay upper) = (part upper).or (part base)

/-- **A part of a stack is that of the first layer that gives it.** -/
theorem IsLaidOver.stack {α : Type} {part : ConnectionParts → Option α} (h : IsLaidOver part)
    (layers : List ConnectionParts) : part (stack layers) = layers.findSome? part := by
  induction layers with
  | nil => exact h.empty
  | cons upper rest ih =>
      have hcons : ConnectionParts.stack (upper :: rest) = (ConnectionParts.stack rest).overlay upper :=
        rfl
      rw [hcons, h.overlay, ih, List.findSome?_cons]
      cases part upper <;> rfl

theorem isLaidOver_user : IsLaidOver user := ⟨rfl, fun _ _ => rfl⟩

theorem isLaidOver_password : IsLaidOver password := ⟨rfl, fun _ _ => rfl⟩

theorem isLaidOver_host : IsLaidOver host := ⟨rfl, fun _ _ => rfl⟩

theorem isLaidOver_port : IsLaidOver port := ⟨rfl, fun _ _ => rfl⟩

theorem isLaidOver_database : IsLaidOver database := ⟨rfl, fun _ _ => rfl⟩

end ConnectionParts

/-! ### The environment -/

/-- The text writes the port in decimal, with or without a plus sign. -/
def WritesPort (text : String) (port : Port) : Prop :=
  ∃ digits, (text.toList = digits ∨ text.toList = '+' :: digits) ∧ digits ≠ [] ∧
    (∀ c ∈ digits, c.isDigit = true) ∧ Nat.ofDigitChars 10 digits 0 = port

theorem Url.port?_eq_some_iff {digits : List Char} {port : Port} :
    Url.port? digits = some port ↔ digits ≠ [] ∧ (∀ c ∈ digits, c.isDigit = true) ∧
      Nat.ofDigitChars 10 digits 0 = port := by
  rw [← Text.natural?_eq_some_iff, Url.port?, Option.bind_eq_some_iff]
  constructor
  · rintro ⟨n, hn, hport⟩
    split at hport
    · rw [← Option.some.inj hport]
      exact hn
    · cases hport
  · intro hn
    exact ⟨port, hn, dif_pos port.isLt⟩

theorem ConnectionDefaults.portOf?_eq_some_iff {text : String} {port : Port} :
    portOf? text = some port ↔ WritesPort text port := by
  unfold portOf? WritesPort
  split
  · rename_i digits htext
    rw [Url.port?_eq_some_iff]
    constructor
    · intro h
      exact ⟨digits, Or.inr htext, h⟩
    · rintro ⟨others, hothers | hothers, h⟩
      · -- a sign is no digit
        have hsign : '+'.isDigit = true := h.2.1 '+' (by simp [← hothers, htext])
        cases hsign
      · rw [htext] at hothers
        rw [(List.cons.inj hothers).2]
        exact h
  · rename_i hsign
    rw [Url.port?_eq_some_iff]
    constructor
    · intro h
      exact ⟨text.toList, Or.inl rfl, h⟩
    · rintro ⟨others, rfl | hothers, h⟩
      · exact h
      · exact absurd hothers (hsign others)

/-- The parts are those of the variables: a text that is not empty is a part as it is, and a text
that writes a port is that port. -/
structure ConnectionParts.OfEnvironment (p : ConnectionParts) (lookup : String → Option String) :
    Prop where
  user : ∀ text, p.user = some text ↔ lookup "PGUSER" = some text ∧ text ≠ ""
  password : ∀ text, p.password = some text ↔ lookup "PGPASSWORD" = some text ∧ text ≠ ""
  host : ∀ text, p.host = some text ↔ lookup "PGHOST" = some text ∧ text ≠ ""
  port : ∀ port, p.port = some port ↔ ∃ text, lookup "PGPORT" = some text ∧ WritesPort text port
  database : ∀ text, p.database = some text ↔ lookup "PGDATABASE" = some text ∧ text ≠ ""

namespace ConnectionParts

/-- The parts that variables give. -/
def ofLookup (lookup : String → Option String) : ConnectionParts :=
  let given (name : String) := (lookup name).filter (· ≠ "")
  { user := given "PGUSER"
    password := given "PGPASSWORD"
    host := given "PGHOST"
    port := (given "PGPORT").bind ConnectionDefaults.portOf?
    database := given "PGDATABASE" }

theorem ofEnvironment_ofLookup (lookup : String → Option String) :
    (ofLookup lookup).OfEnvironment lookup := by
  have hgiven (name text : String) :
      (lookup name).filter (fun value => decide (value ≠ "")) = some text
        ↔ lookup name = some text ∧ text ≠ "" := by
    rw [Option.filter_eq_some_iff, decide_eq_true_eq]
  refine ⟨hgiven _, hgiven _, hgiven _, fun port => ?_, hgiven _⟩
  refine Option.bind_eq_some_iff.trans (exists_congr fun text => ?_)
  rw [hgiven, ConnectionDefaults.portOf?_eq_some_iff, and_assoc]
  refine and_congr_right fun _ => and_iff_right_of_imp ?_
  rintro ⟨digits, hdigits | hdigits, hne, -⟩ rfl
  · exact hne hdigits.symm
  · cases hdigits

theorem builtInPort_lt : 5432 < 65536 := by
  decide

/-- The parts of every connection that nothing else is said of. -/
def builtIn : ConnectionParts where
  user := some "postgres"
  host := some "127.0.0.1"
  port := some ⟨5432, builtInPort_lt⟩
  database := some "postgres"

end ConnectionParts

/-- What is there of a connection that nothing is said of. -/
def ConnectionDefaults.parts (d : ConnectionDefaults) : ConnectionParts where
  user := some d.user
  password := d.password
  host := some d.host
  port := some d.port
  database := some d.database

/-- The parts of a connection, none of which is missing but the password. -/
def ConnectionObject.parts (o : ConnectionObject) : ConnectionParts where
  user := some o.user
  password := o.password
  host := some o.host
  port := some o.port
  database := some o.database

theorem some_getD {α : Type} (a : Option α) (b : α) : some (a.getD b) = a.or (some b) := by
  cases a <;> rfl

theorem ConnectionDefaults.parts_ofLookup (lookup : String → Option String) :
    (ofLookup lookup).parts = ConnectionParts.builtIn.overlay (.ofLookup lookup) := by
  simp only [parts, ofLookup, some_getD, ConnectionParts.overlay, ConnectionParts.builtIn,
    Option.or_none]
  rfl

/-- **Given parts are laid over the defaults.** -/
theorem parts_of_fill {p : ConnectionParts} {defaults : ConnectionDefaults} {c : Connection}
    (h : p.fill defaults = .ok c) : c.object.parts = defaults.parts.overlay p := by
  obtain ⟨host, -, -, rfl⟩ := Connection.ofObject_eq_ok_iff.mp h
  simp only [ConnectionObject.parts, some_getD]
  rfl

/-- Every part of the connection is that of the first layer that gives it. -/
structure ConnectionObject.ComesFrom (o : ConnectionObject) (layers : List ConnectionParts) :
    Prop where
  user : layers.findSome? (·.user) = some o.user
  password : layers.findSome? (·.password) = o.password
  host : layers.findSome? (·.host) = some o.host
  port : layers.findSome? (·.port) = some o.port
  database : layers.findSome? (·.database) = some o.database

theorem comesFrom_of_parts {o : ConnectionObject} {layers : List ConnectionParts}
    (h : o.parts = ConnectionParts.stack layers) : o.ComesFrom layers where
  user := by rw [← ConnectionParts.isLaidOver_user.stack, ← h]; rfl
  password := by rw [← ConnectionParts.isLaidOver_password.stack, ← h]; rfl
  host := by rw [← ConnectionParts.isLaidOver_host.stack, ← h]; rfl
  port := by rw [← ConnectionParts.isLaidOver_port.stack, ← h]; rfl
  database := by rw [← ConnectionParts.isLaidOver_database.stack, ← h]; rfl

/-! ### The command line and the configuration -/

/-- The parts that the target of a configuration gives; a connect string gives none. -/
def Target.givenParts : Option Target → ConnectionParts
  | none => {}
  | some (.parts p) => p
  | some (.url _) => {}

namespace CommandLine.Options

variable {o : Options} {configured : Option Target} {text : String}

theorem target_of_connect (h : o.connect = some text) : o.target configured = .url text := by
  unfold target
  rw [h]

theorem target_of_url (hconnect : o.connect = none) (hparts : o.parts = {}) :
    o.target (some (.url text)) = .url text := by
  unfold target
  rw [hconnect, hparts]
  rfl

/-- A connect string of the configuration is given up for any part. -/
theorem target_of_parts (hconnect : o.connect = none)
    (hparts : ∀ text, configured = some (.url text) → o.parts ≠ {}) :
    o.target configured = .parts ((Target.givenParts configured).overlay o.parts) := by
  unfold target
  rw [hconnect]
  match configured with
  | none => rw [Target.givenParts, ConnectionParts.empty_overlay]
  | some (.parts p) => rfl
  | some (.url text) =>
      have hgiven : ¬ o.parts.isEmpty = true := by
        simpa [ConnectionParts.isEmpty] using hparts text rfl
      rw [Target.givenParts, ConnectionParts.empty_overlay]
      exact if_neg hgiven

/-- What the target of a command line and a configuration resolves to, with the variables of the
environment. -/
def resolved (o : Options) (configured : Option Target) (lookup : String → Option String) :
    Except Failure Connection :=
  (o.target configured).resolve (.ofLookup lookup)

end CommandLine.Options

open CommandLine (Options)

/--
**Where a connection comes from.**  A connect string on the command line is the whole target, and
one in the configuration is as long as no part is given on the command line.  Otherwise every part
is that of the first layer which gives it, from the command line over the configuration and the
variables down to the built-in parts; the configuration's connect string is none of the layers.
-/
theorem connection_precedence (o : Options) (configured : Option Target)
    (lookup : String → Option String) :
    ∃ environment : ConnectionParts, environment.OfEnvironment lookup ∧
      (∀ text, o.connect = some text →
        o.resolved configured lookup = (Target.url text).resolve (.ofLookup lookup)) ∧
      (o.connect = none → o.parts = {} → ∀ text, configured = some (.url text) →
        o.resolved configured lookup = (Target.url text).resolve (.ofLookup lookup)) ∧
      (o.connect = none → (∀ text, configured = some (.url text) → o.parts ≠ {}) →
        ∀ c, o.resolved configured lookup = .ok c →
          c.object.ComesFrom [o.parts, Target.givenParts configured, environment, .builtIn]) ∧
      (o.connect = none → o.parts ≠ {} → ∀ text,
        o.resolved (some (.url text)) lookup = o.resolved none lookup) ∧
      (∀ a b c : ConnectionParts, (a.overlay b).overlay c = a.overlay (b.overlay c)) ∧
      ∀ a : ConnectionParts, a.overlay {} = a ∧ ConnectionParts.overlay {} a = a := by
  refine ⟨.ofLookup lookup, ConnectionParts.ofEnvironment_ofLookup lookup, ?_, ?_, ?_, ?_,
    ConnectionParts.overlay_assoc,
    fun a => ⟨a.overlay_empty, a.empty_overlay⟩⟩
  · intro text hconnect
    rw [Options.resolved, Options.target_of_connect hconnect]
  · rintro hconnect hparts text rfl
    rw [Options.resolved, Options.target_of_url hconnect hparts]
  · intro hconnect hparts c hc
    rw [Options.resolved, Options.target_of_parts hconnect hparts] at hc
    refine comesFrom_of_parts ?_
    rw [parts_of_fill hc, ConnectionDefaults.parts_ofLookup, ← ConnectionParts.overlay_assoc]
    simp [ConnectionParts.stack]
  · intro hconnect hparts text
    rw [Options.resolved, Options.resolved, Options.target_of_parts hconnect fun _ _ => hparts,
      Options.target_of_parts hconnect fun _ _ => hparts]
    rfl

/-- A command line that names the host. -/
def hostOptions : Options where
  parts := { host := some "db" }

/-- A configuration that names the user and another host. -/
def userTarget : Target :=
  .parts { user := some "app", host := some "localhost" }

/-- An environment with a password, a third host and a port that is none. -/
def passwordLookup : String → Option String
  | "PGPASSWORD" => some "pw"
  | "PGHOST" => some "elsewhere"
  | "PGPORT" => some "70000"
  | _ => none

theorem connection_precedence_host :
    ∃ c, hostOptions.connect = none ∧ hostOptions.parts ≠ {} ∧
      hostOptions.resolved (some userTarget) passwordLookup = .ok c ∧
      c.string = "postgresql://app:pw@db:5432/postgres" ∧
      c.object.host = "db" ∧ c.object.user = "app" ∧ c.object.password = some "pw" := by
  have hconnect : hostOptions.connect = none := rfl
  have hparts : hostOptions.parts ≠ {} := by decide
  have hresolved : hostOptions.resolved (some userTarget) passwordLookup = .ok
      ⟨"postgresql://app:pw@db:5432/postgres", ⟨"app", some "pw", "db", 5432, "postgres"⟩⟩ := by
    rfl
  obtain ⟨environment, henvironment, -, -, hlayers, -⟩ :=
    connection_precedence hostOptions (some userTarget) passwordLookup
  have hcomes := hlayers hconnect (fun _ _ => hparts) _ hresolved
  have hpassword : environment.password = some "pw" :=
    (henvironment.password "pw").mpr ⟨rfl, by decide⟩
  refine ⟨_, hconnect, hparts, hresolved, rfl, ?_, ?_, ?_⟩
  · exact (Option.some.inj hcomes.host).symm
  · exact (Option.some.inj hcomes.user).symm
  · refine hcomes.password.symm.trans ?_
    simp [hostOptions, userTarget, Target.givenParts, hpassword]

end Tablewright
