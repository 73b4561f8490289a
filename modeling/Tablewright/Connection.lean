/-
Connections: targets with nothing missing.

A target is taken apart, the missing parts are filled in, and the connect string
is written anew from all of them.  User, password and database are escaped in it,
so that they read back whatever characters they have.
-/
import Tablewright.Connection.Defaults
import Tablewright.Connection.Target
import Tablewright.Failure

namespace Tablewright

/-- The parts of a connection. -/
structure ConnectionObject where
  user : String
  password : Option String
  host : String
  port : Port
  database : String
deriving DecidableEq

namespace ConnectionObject

/-- The password with a star for every character, or the word for no password. -/
def maskedPassword (o : ConnectionObject) : String :=
  match o.password with
  | some password => String.ofList (List.replicate password.toList.length '*')
  | none => "NO"

/-- The connection without its user and password, as failures name it. -/
def place (o : ConnectionObject) : String :=
  o.host ++ ":" ++ String.ofList (Url.portText o.port) ++ "/" ++ o.database

/-- The user and the password in front of the host; an empty password is left out. -/
def userText (o : ConnectionObject) : List Char :=
  let user := Url.encode Url.escapedInUser o.user.toList
  let password := Url.encode Url.escapedInUser (o.password.getD "").toList
  if !password.isEmpty then user ++ ':' :: password ++ ['@']
  else if !user.isEmpty then user ++ ['@']
  else []

/-- The connect string of the parts with the given text of the host. -/
def connectString (o : ConnectionObject) (host : List Char) : String :=
  String.ofList ("postgresql://".toList ++ o.userText ++ host ++ ':' :: Url.portText o.port ++
    Url.normalizedPath o.database.toList)

end ConnectionObject

/-- A connection. -/
structure Connection where
  /-- The connect string. -/
  string : String
  object : ConnectionObject
deriving DecidableEq

namespace Connection

/-- The connection of some parts, when the host can stand in a connect string. -/
def ofObject (o : ConnectionObject) : Except Failure Connection := do
  let host ← (Url.hostOfText o.host.toList).mapError fun fault =>
    .malformedConnectString o.place fault.message
  if host.isEmpty then throw (.malformedConnectString o.place "cannot set port")
  pure ⟨o.connectString host, o⟩

end Connection

namespace ConnectionParts

/-- The text that escapes stand for, unless it is empty. -/
def decoded? (cs : List Char) : Option String :=
  if cs.isEmpty then none else some (String.ofList (Url.decode cs))

/-- The parts of a connect string that was taken apart. -/
def ofUrl (u : Url.Parts) : ConnectionParts where
  user := decoded? u.user.name
  password := u.user.password.bind decoded?
  host := if u.host.isEmpty then none else some (String.ofList u.host)
  port := u.port
  database := decoded? (u.path.dropWhile (· = '/'))

/-- The parts of a connect string. -/
def ofString (s : String) : Except Failure ConnectionParts := do
  let (scheme, parts) ← (Url.parse s).mapError fun fault =>
    .malformedConnectString s fault.message
  match scheme, parts with
  | "postgresql", some parts => pure (ofUrl parts)
  | scheme, _ => throw (.foreignProtocol (scheme ++ ":"))

/-- The connection of the parts and, where they are missing, of the defaults. -/
def fill (p : ConnectionParts) (defaults : ConnectionDefaults) : Except Failure Connection :=
  Connection.ofObject {
    user := p.user.getD defaults.user
    password := p.password.or defaults.password
    host := p.host.getD defaults.host
    port := p.port.getD defaults.port
    database := p.database.getD defaults.database }

end ConnectionParts

namespace Target

/-- The connection to a target. -/
def resolve (t : Target) (defaults : ConnectionDefaults) : Except Failure Connection := do
  let parts ← match t with
    | url text => ConnectionParts.ofString text
    | parts p => pure p
  parts.fill defaults

end Target

end Tablewright
