/-
Network addresses of eight groups.

An address is written as eight groups of hexadecimal digits between colons.  Two
colons stand for as many empty groups as are missing, and the last two groups may
be written as four decimal numbers.  Written out, the first of the longest runs
of empty groups is left out, unless it is a single group.
-/
import Tablewright.Text.Digits

namespace Tablewright.Url

/-- An address: eight groups of sixteen bits. -/
structure Address where
  groups : List Nat
deriving DecidableEq

namespace Address

/-- The parts of a text between separators. -/
def parts (separator : Char) : List Char → List (List Char)
  | [] => [[]]
  | c :: rest =>
    match parts separator rest with
    | [] => [[]]
    | first :: others => if c = separator then [] :: first :: others else (c :: first) :: others

/-- A decimal number of eight bits, without a zero in front. -/
def decimal? (digits : List Char) : Option Nat :=
  if digits.all Char.isDigit && digits.length ≤ 3 && (digits.length = 1 || digits.head? ≠ some '0') then
    (Text.natural? 10 digits).filter (· < 256)
  else none

/-- The groups of one part: one, or two when it is written in decimal, which only the last may be. -/
def groups? (final : Bool) (part : List Char) : Option (List Nat) :=
  if final && part.contains '.' then do
    match ← (parts '.' part).mapM decimal? with
    | [a, b, c, d] => some [256 * a + b, 256 * c + d]
    | _ => none
  else if part.length ≤ 4 then (Text.natural? 16 part).map ([·])
  else none

/-- The groups of parts none of which is empty. -/
def run? (final : Bool) : List (List Char) → Option (List Nat)
  | [] => some []
  | part :: rest => do
    let first ← groups? (final && rest.isEmpty) part
    let others ← run? final rest
    pure (first ++ others)

/-- The address of its groups before and after the gap. -/
def fill? (before after : List Nat) : Option Address :=
  let missing := 8 - before.length - after.length
  if missing = 0 then none else some ⟨before ++ List.replicate missing 0 ++ after⟩

/-- The address of some parts. -/
def ofParts? (all : List (List Char)) : Option Address :=
  match all.takeWhile (!·.isEmpty), all.dropWhile (!·.isEmpty) with
  | before, [] => do
    let groups ← run? true before
    if groups.length = 8 then some ⟨groups⟩ else none
  | [], [[], [], []] => some ⟨List.replicate 8 0⟩
  | [], [] :: [] :: first :: after => do fill? [] (← run? true (first :: after))
  | [], _ => none
  | _, [[]] => none
  | before, [[], []] => do fill? (← run? false before) []
  | before, _ :: after => do fill? (← run? false before) (← run? true after)

/-- Reads an address. -/
def parse? (cs : List Char) : Option Address :=
  ofParts? (parts ':' cs)

/-! ### Writing -/

/-- How many empty groups a list starts with. -/
def leadingZeros (groups : List Nat) : Nat :=
  (groups.takeWhile (· = 0)).length

/-- Where the first of the longest runs of empty groups starts, and how long it is. -/
def longestRun (groups : List Nat) : Nat × Nat :=
  (List.range groups.length).foldl (fun best start =>
    let length := leadingZeros (groups.drop start)
    if best.2 < length then (start, length) else best) (0, 0)

/-- Groups with colons between them. -/
def joined (groups : List Nat) : List Char :=
  [':'].intercalate (groups.map (Nat.toDigits 16))

/-- The text of an address. -/
def text (a : Address) : List Char :=
  let (start, length) := longestRun a.groups
  if length < 2 then joined a.groups
  else joined (a.groups.take start) ++ [':', ':'] ++ joined (a.groups.drop (start + length))

end Address

end Tablewright.Url
