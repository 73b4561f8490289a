/-
Hosts of the schemes of the web.

Connect strings do not use them, but such a text is told from one that is no
connect string at all only after its host has been checked.  A host that ends in
a number is an address of four numbers, and any other is a domain.
-/
import Tablewright.Url.Host

namespace Tablewright.Url

/-- Whether a domain cannot have a character. -/
def isForbiddenInDomain (c : Char) : Bool :=
  c ≤ ' ' || c = '\x7f' || "%#/:<>?@[\\]^|".toList.contains c

/-- A number of an address in one of the three bases, when it is one; nothing inside when it is too
great for any address. -/
def addressNumber? (cs : List Char) : Option (Option Nat) :=
  let (base, digits) := match cs with
    | '0' :: 'x' :: rest | '0' :: 'X' :: rest => (16, rest)
    | '0' :: d :: rest => (8, d :: rest)
    | cs => (10, cs)
  if cs.isEmpty then none
  else if digits.isEmpty then some (some 0)
  else (Text.natural? base digits).map fun n => if n < Nat.pow 2 32 then some n else none

/-- The parts of a domain, without an empty one at the end. -/
def domainParts (cs : List Char) : List (List Char) :=
  let all := Address.parts '.' cs
  if 1 < all.length && all.getLast? = some [] then all.dropLast else all

/-- Whether a host ends in a number. -/
def endsInNumber (cs : List Char) : Bool :=
  match (domainParts cs).getLast? with
  | some last => (!last.isEmpty && last.all Char.isDigit) || (addressNumber? last).isSome
  | none => false

/-- Whether a text is an address of at most four numbers. -/
def isShortAddress (cs : List Char) : Bool :=
  let all := domainParts cs
  match all.mapM fun part => (addressNumber? part).join with
  | none => false
  | some numbers =>
    all.length ≤ 4 && numbers.dropLast.all (· ≤ 255) &&
      numbers.getLast?.any (· < Nat.pow 256 (5 - all.length))

/-- Checks a host of a scheme of the web. -/
def checkDomain (cs : List Char) : Except Fault Unit :=
  match bracketed? cs with
  | some inner => do
    let _ ← inner >>= addressHost
  | none =>
    let name := decode cs
    if name.any isForbiddenInDomain then throw .domain
    else if endsInNumber name && !isShortAddress name then throw .shortAddress
    else pure ()

end Tablewright.Url
