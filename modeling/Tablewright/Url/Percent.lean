/-
Percent encoding.

A character that a part of a connect string cannot hold is written as its octets,
each as a percent sign and two digits.  Decoding takes any part of a text as it
is that is not such an octet, so every text can be decoded.
-/
import Tablewright.Text.Digits
import Tablewright.Text.Utf8

namespace Tablewright.Url

/-- An octet, written by its number. -/
def escaped (o : Nat) : List Char :=
  let digit (n : Nat) := (Nat.digitChar n).toUpper
  ['%', digit (o / 16), digit (o % 16)]

/-- Whether a character is one that controls a device, or no ASCII character at all. -/
def isControl (c : Char) : Bool :=
  c < ' ' || '~' < c

/-- Whether a path cannot hold a character. -/
def escapedInPath (c : Char) : Bool :=
  isControl c || " \"<>\x60#?\x7b\x7d".toList.contains c

/-- Whether a user name or a password cannot hold a character. -/
def escapedInUser (c : Char) : Bool :=
  escapedInPath c || "/:;=@[\\]^|".toList.contains c

/-- A text whose characters are escaped where they must be. -/
def encode (isEscaped : Char → Bool) (cs : List Char) : List Char :=
  cs.flatMap fun c => if isEscaped c then (Utf8.encodeChar c).flatMap escaped else [c]

/-- The octets of a text with escapes. -/
def octets : List Char → List Nat
  | [] => []
  | c :: rest =>
    match c, rest with
    | '%', a :: b :: after =>
      match Text.hexValue? a, Text.hexValue? b with
      | some a, some b => (16 * a + b) :: octets after
      | _, _ => Utf8.encodeChar '%' ++ octets (a :: b :: after)
    | c, rest => Utf8.encodeChar c ++ octets rest

/-- The text that escapes stand for. -/
def decode (cs : List Char) : List Char :=
  Utf8.decode (octets cs)

end Tablewright.Url
