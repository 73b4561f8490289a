/-
Characters as octets, and back.

Every character is one to four octets.  Octets that are no characters do not stop
the decoding: the longest start of a character that cannot go on is replaced by
one replacement character, and the next octet starts afresh.
-/
namespace Tablewright.Utf8

/-- An octet, as a number below 256. -/
abbrev Octet := Nat

/-- An octet after the first one, with six bits of the character. -/
def continuation (bits : Nat) : Octet :=
  0x80 + bits % 0x40

/-- The octets of a character. -/
def encodeChar (c : Char) : List Octet :=
  let n := c.toNat
  if n < 0x80 then [n]
  else if n < 0x800 then [0xC0 + n / 0x40, continuation n]
  else if n < 0x10000 then [0xE0 + n / 0x1000, continuation (n / 0x40), continuation n]
  else [0xF0 + n / 0x40000, continuation (n / 0x1000), continuation (n / 0x40), continuation n]

/-- The octets of a text. -/
def encode (cs : List Char) : List Octet :=
  cs.flatMap encodeChar

/-- What stands for octets that are no character. -/
def replacement : Char := '\ufffd'

/-- A character that has started: how many octets are due after the next one, what the octets so
far say, and where the next one must lie. -/
structure Started where
  due : Nat
  value : Nat
  low : Octet
  high : Octet
deriving DecidableEq

/-- What an octet starts. -/
inductive Start
  | char (c : Char)
  | longer (s : Started)
  | fault
deriving DecidableEq

/-- What an octet starts.  The bounds of the second octet keep out the longer spellings of shorter
characters, the halves of surrogate pairs and what lies beyond the last character. -/
def start (o : Octet) : Start :=
  if o < 0x80 then .char (Char.ofNat o)
  else if o < 0xC2 then .fault
  else if o < 0xE0 then .longer ⟨0, o - 0xC0, 0x80, 0xBF⟩
  else if o < 0xF0 then
    .longer ⟨1, o - 0xE0, if o = 0xE0 then 0xA0 else 0x80, if o = 0xED then 0x9F else 0xBF⟩
  else if o < 0xF5 then
    .longer ⟨2, o - 0xF0, if o = 0xF0 then 0x90 else 0x80, if o = 0xF4 then 0x8F else 0xBF⟩
  else .fault

/-- What an octet makes of a character that has started, when it belongs to it. -/
def Started.next? (s : Started) (o : Octet) : Option (Char ⊕ Started) :=
  if s.low ≤ o && o ≤ s.high then
    let value := 0x40 * s.value + (o - 0x80)
    match s.due with
    | 0 => some (.inl (Char.ofNat value))
    | due + 1 => some (.inr ⟨due, value, 0x80, 0xBF⟩)
  else none

/-- Takes an octet outside a character, after the given characters. -/
def takeStart (before : List Char) (o : Octet) : List Char × Option Started :=
  match start o with
  | .char c => (before ++ [c], none)
  | .longer s => (before, some s)
  | .fault => (before ++ [replacement], none)

/-- Takes one octet; gives the characters it completes. -/
def take (o : Octet) : Option Started → List Char × Option Started
  | none => takeStart [] o
  | some s =>
    match s.next? o with
    | some (.inl c) => ([c], none)
    | some (.inr s) => ([], some s)
    | none => takeStart [replacement] o

/-- The characters of octets, some of which may have been taken. -/
def decodeFrom : Option Started → List Octet → List Char
  | none, [] => []
  | some _, [] => [replacement]
  | s, o :: rest =>
    let (cs, s) := take o s
    cs ++ decodeFrom s rest

/-- The characters of octets. -/
def decode (os : List Octet) : List Char :=
  decodeFrom none os

end Tablewright.Utf8
