/-
Hosts of connect strings.

A host is a name or, in brackets, an address of eight groups.  A name is kept as
it is written, apart from what must be escaped in it.
-/
import Tablewright.Url.Address
import Tablewright.Url.Percent

namespace Tablewright.Url

/-- Why a text is no connect string. -/
inductive Fault
  | noScheme
  | emptyHost
  | port
  /-- An address in brackets that is none. -/
  | longAddress
  /-- An address of four numbers that is none. -/
  | shortAddress
  | hostCharacter
  /-- A name that a domain cannot have. -/
  | domain
deriving DecidableEq

/-- The wording of a fault. -/
def Fault.message : Fault → String
  | noScheme => "relative URL without a base"
  | emptyHost => "empty host"
  | port => "invalid port number"
  | longAddress => "invalid IPv6 address"
  | shortAddress => "invalid IPv4 address"
  | hostCharacter => "invalid domain character"
  | domain => "invalid international domain name"

/-- Whether a host cannot hold a character, not even escaped. -/
def isForbiddenInHost (c : Char) : Bool :=
  "\x00\t\n\r #/:<>?@[\\]^|".toList.contains c

/-- What stands in brackets, when a host starts with one. -/
def bracketed? (cs : List Char) : Option (Except Fault (List Char)) :=
  match cs with
  | '[' :: inner =>
    if inner.getLast? = some ']' then some (.ok inner.dropLast) else some (.error .longAddress)
  | _ => none

/-- The text of an address in brackets. -/
def addressHost (inner : List Char) : Except Fault (List Char) :=
  match Address.parse? inner with
  | some address => pure ('[' :: (address.text ++ [']']))
  | none => throw .longAddress

/-- The host that a text is, as it is written in a connect string. -/
def hostOf (cs : List Char) : Except Fault (List Char) :=
  match bracketed? cs with
  | some inner => inner >>= addressHost
  | none => if cs.any isForbiddenInHost then throw .hostCharacter else pure (encode isControl cs)

/-- The host that a text given on its own is, which ends at its first colon outside brackets. -/
def hostOfText (cs : List Char) : Except Fault (List Char) :=
  match cs with
  | ':' :: _ => throw .hostCharacter
  | '[' :: _ => if cs.getLast? = some ']' then hostOf cs else hostOf (cs.takeWhile (· ≠ ':'))
  | _ => hostOf (cs.takeWhile (· ≠ ':'))

end Tablewright.Url
