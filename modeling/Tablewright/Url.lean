/-
Connect strings.

A connect string is a scheme, an authority and a path.  The authority names the
user, the password, the host and the port, and each of them may be missing.  A
text is taken apart from left to right; where its parts may be ambiguous, the
last at sign ends the user's part and the first colon in it starts the password.

The schemes of the web have rules of their own.  Of such a text only the scheme
is kept, once its authority has been checked.
-/
import Tablewright.Url.Domain
import Tablewright.Url.Path

namespace Tablewright

/-- A port. -/
abbrev Port := Fin 65536

namespace Url

/-- The port of some digits, when it is one. -/
def port? (digits : List Char) : Option Port :=
  (Text.natural? 10 digits).bind fun n => if h : n < 65536 then some ⟨n, h⟩ else none

/-- The port in decimal. -/
def portText (p : Port) : List Char :=
  Nat.toDigits 10 p.val

/-! ### Schemes -/

/-- The kinds of schemes. -/
inductive Kind
  | general
  /-- A scheme of the web, whose backslashes are slashes. -/
  | web
  | file
deriving DecidableEq

/-- The kind of a scheme. -/
def Kind.ofScheme (scheme : List Char) : Kind :=
  if ["http", "https", "ws", "wss", "ftp"].any (·.toList = scheme) then .web
  else if scheme = "file".toList then .file
  else .general

/-- Whether a character may stand in a scheme. -/
def isSchemeChar (c : Char) : Bool :=
  c.isAlphanum || c = '+' || c = '-' || c = '.'

/-- The text without the blanks around it and without tabs and line breaks. -/
def cleaned (cs : List Char) : List Char :=
  let trimmed := ((cs.dropWhile (· ≤ ' ')).reverse.dropWhile (· ≤ ' ')).reverse
  trimmed.filter isKept

/-- The scheme of a text, in lower case, and what follows its colon. -/
def splitScheme (cs : List Char) : Except Fault (List Char × List Char) :=
  let scheme := cs.takeWhile isSchemeChar
  match cs.dropWhile isSchemeChar with
  | ':' :: rest =>
    if scheme.head?.any Char.isAlpha then pure (scheme.map Char.toLower, rest) else throw .noScheme
  | _ => throw .noScheme

/-! ### The authority -/

/-- The user's part of a connect string: the name and, behind a colon, the password. -/
structure User where
  name : List Char
  password : Option (List Char)
deriving DecidableEq

/-- The user's part before the first colon and after it. -/
def userOf (cs : List Char) : User where
  name := encode escapedInUser (cs.takeWhile (· ≠ ':'))
  password := match cs.dropWhile (· ≠ ':') with
    | _ :: c :: rest => some (encode escapedInUser (c :: rest))
    | _ => none

/-- The text before the last at sign, if there is one, and the text after it. -/
def splitUser : List Char → Option (List Char) × List Char
  | [] => (none, [])
  | c :: rest =>
    match splitUser rest with
    | (some before, after) => (some (c :: before), after)
    | (none, after) => if c = '@' then (some [], after) else (none, c :: after)

/-- The text of the host, which the first colon outside brackets ends, and what follows it. -/
def splitHost : (inBrackets : Bool) → List Char → List Char × List Char
  | _, [] => ([], [])
  | inBrackets, c :: rest =>
    if c = ':' && !inBrackets then ([], c :: rest)
    else
      let (host, after) := splitHost (c = '[' || (inBrackets && c ≠ ']')) rest
      (c :: host, after)

/-- The port behind its colon, and what follows it, which starts with a backslash. -/
def splitPort (cs : List Char) : Except Fault (Option Port × List Char) :=
  match cs with
  | ':' :: rest =>
    let digits := rest.takeWhile Char.isDigit
    let after := rest.dropWhile Char.isDigit
    if after.head?.any (· ≠ '\\') then throw .port
    else if digits.isEmpty then pure (none, after)
    else match port? digits with
      | some port => pure (some port, after)
      | none => throw .port
  | rest => pure (none, rest)

/-- Whether a character ends the authority. -/
def endsAuthority (kind : Kind) (c : Char) : Bool :=
  c = '/' || c = '?' || c = '#' || (kind ≠ .general && c = '\\')

/-- A connect string, taken apart.  Its texts are escaped. -/
structure Parts where
  user : User := ⟨[], none⟩
  host : List Char := []
  port : Option Port := none
  path : List Char := []
deriving DecidableEq

/-- The text up to the query or the fragment. -/
def beforeQuery (cs : List Char) : List Char :=
  cs.takeWhile fun c => !(c = '?' || c = '#')

/-- The path after an authority. -/
def pathOf (cs : List Char) : List Char :=
  match beforeQuery cs with
  | [] => []
  | '/' :: rest => normalizedPath rest
  | rest => normalizedPath rest

/-- Takes apart what follows the two slashes. -/
def parseAuthority (cs : List Char) : Except Fault Parts := do
  let authority := cs.takeWhile fun c => !endsAuthority .general c
  let path := cs.dropWhile fun c => !endsAuthority .general c
  let (user, hostAndPort) := splitUser authority
  if user = some [] && hostAndPort.isEmpty && !path.isEmpty then throw .emptyHost
  let (hostText, rest) := splitHost false hostAndPort
  let host ← hostOf hostText
  if host.isEmpty && !rest.isEmpty then throw .emptyHost
  let (port, rest) ← splitPort rest
  if host.isEmpty && user.any fun u => u ≠ [] && u ≠ [':'] then throw .emptyHost
  pure ⟨userOf (user.getD []), host, port, pathOf (rest ++ path)⟩

/-- Takes apart what follows the scheme. -/
def parseGeneral (cs : List Char) : Except Fault Parts :=
  match cs with
  | '/' :: '/' :: rest => parseAuthority rest
  | '/' :: rest => pure { path := normalizedPath (beforeQuery rest) }
  | rest => pure { path := encode isControl (beforeQuery rest) }

/-- Checks what follows a scheme of the web. -/
def checkWeb (cs : List Char) : Except Fault Unit := do
  let cs := cs.dropWhile fun c => c = '/' || c = '\\'
  let authority := cs.takeWhile fun c => !endsAuthority .web c
  let path := cs.dropWhile fun c => !endsAuthority .web c
  let (user, hostAndPort) := splitUser authority
  if user = some [] && hostAndPort.isEmpty && !path.isEmpty then throw .emptyHost
  let (hostText, rest) := splitHost false hostAndPort
  if hostText.isEmpty then throw .emptyHost
  checkDomain hostText
  let _ ← splitPort rest

/-- Checks what follows the scheme of files. -/
def checkFile (cs : List Char) : Except Fault Unit :=
  let isSlash c := c = '/' || c = '\\'
  match cs with
  | a :: b :: rest =>
    let host := rest.takeWhile fun c => !endsAuthority .file c
    if isSlash a && isSlash b && !host.isEmpty && !isDrive host then checkDomain host else pure ()
  | _ => pure ()

/-- Takes a text apart: its scheme and, unless the scheme has rules of its own, the parts after it. -/
def parse (s : String) : Except Fault (String × Option Parts) := do
  let (scheme, rest) ← splitScheme (cleaned s.toList)
  match Kind.ofScheme scheme with
  | .general => pure (String.ofList scheme, some (← parseGeneral rest))
  | .web => do
    checkWeb rest
    pure (String.ofList scheme, none)
  | .file => do
    checkFile rest
    pure (String.ofList scheme, none)

end Url

end Tablewright
