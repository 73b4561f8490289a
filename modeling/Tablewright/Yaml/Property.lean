/-
Anchors and tags, and the directives in front of a document.

A tag is written as an address of its own or as a handle and a suffix; what a
handle stands for is a matter of the directives.  An octet of an address may be
written by its number.
-/
import Tablewright.Text.Digits
import Tablewright.Yaml.Spot

namespace Tablewright.Yaml

/-- Whether a character may stand in a name. -/
def isNameChar (c : Char) : Bool :=
  c.isAlphanum || c = '_' || c = '-'

/-- The name here and the text after it. -/
def scanName (ss : List Spot) : List Char × List Spot :=
  (textOf (ss.takeWhile fun s => isNameChar s.char), ss.dropWhile fun s => isNameChar s.char)

/-- Whether an anchor may end before this text. -/
def endsAnchor (ss : List Spot) : Bool :=
  atWordEnd ss || ss.head?.any fun s => ['?', ':', ',', ']', '\x7d', '%', '@', '\x60'].contains s.char

/-- The name of an anchor or an alias after its sign, and the text after it. -/
def scanAnchor? (ss : List Spot) : Option (String × List Spot) :=
  let (name, rest) := scanName ss
  if name.isEmpty || !endsAnchor rest then none else some (String.ofList name, rest)

/-! ### Addresses -/

/-- A unit of an address. -/
inductive Octet
  | plain (c : Char)
  /-- An octet written by its number. -/
  | coded (value : Nat)
deriving DecidableEq

/-- Whether a character may stand in an address; more may between angle brackets. -/
def isAddressChar (verbatim : Bool) (c : Char) : Bool :=
  isNameChar c || ";/?:@&=+$.!~*'()".toList.contains c || (verbatim && [',', '[', ']'].contains c)

/-- The units of the address here and the text after it. -/
def scanOctets? (verbatim : Bool) : List Spot → Option (List Octet × List Spot)
  | [] => some ([], [])
  | s :: rest =>
    if s.char = '%' then
      match rest with
      | a :: b :: rest => do
        let a ← Text.hexValue? a.char
        let b ← Text.hexValue? b.char
        let (octets, rest) ← scanOctets? verbatim rest
        pure (.coded (16 * a + b) :: octets, rest)
      | _ => none
    else if isAddressChar verbatim s.char then do
      let (octets, rest) ← scanOctets? verbatim rest
      pure (.plain s.char :: octets, rest)
    else some ([], s :: rest)

/-- How many octets follow the first one of a character, and what the first one adds to it. -/
def leadOctet? (value : Nat) : Option (Nat × Nat) :=
  if value < 0x80 then some (0, value)
  else if value / 0x20 = 6 then some (1, value % 0x20)
  else if value / 0x10 = 14 then some (2, value % 0x10)
  else if value / 0x08 = 30 then some (3, value % 0x08)
  else none

/-- The characters of an address, with `due` octets of the character `value` still to come. -/
def decodeOctets? : (due value : Nat) → List Octet → Option (List Char)
  | 0, _, [] => some []
  | _ + 1, _, [] => none
  | 0, _, .plain c :: rest => (c :: ·) <$> decodeOctets? 0 0 rest
  | _ + 1, _, .plain _ :: _ => none
  | 0, _, .coded octet :: rest => do
    let (due, value) ← leadOctet? octet
    match due with
    | 0 => (Char.ofNat value :: ·) <$> decodeOctets? 0 0 rest
    | due + 1 => decodeOctets? (due + 1) value rest
  | due + 1, value, .coded octet :: rest =>
    if octet / 0x40 = 2 then
      let value := 0x40 * value + octet % 0x40
      match due with
      | 0 => (Char.ofNat value :: ·) <$> decodeOctets? 0 0 rest
      | due + 1 => decodeOctets? (due + 1) value rest
    else none

/-- The address here and the text after it. -/
def scanAddress? (verbatim : Bool) (ss : List Spot) : Option (List Char × List Spot) := do
  let (octets, rest) ← scanOctets? verbatim ss
  pure (← decodeOctets? 0 0 octets, rest)

/-! ### Tags -/

/-- A tag as it is written. -/
structure TagText where
  /-- The handle, which is empty when the suffix is the whole tag. -/
  handle : List Char
  suffix : List Char
deriving DecidableEq

/-- The handle after its first sign, and the text after it. -/
def scanHandle (ss : List Spot) : List Char × List Spot :=
  let (name, rest) := scanName ss
  match rest with
  | s :: after => if s.char = '!' then ('!' :: name ++ ['!'], after) else ('!' :: name, rest)
  | [] => ('!' :: name, [])

/-- The tag after its sign, and the text after it. -/
def scanTagText? (ss : List Spot) : Option (TagText × List Spot) :=
  match ss with
  | s :: rest =>
    if s.char = '<' then do
      let (address, rest) ← scanAddress? true rest
      match rest with
      | s :: rest => if s.char = '>' && !address.isEmpty then some (⟨[], address⟩, rest) else none
      | [] => none
    else
      let (handle, rest) := scanHandle ss
      if 1 < handle.length && handle.getLast? = some '!' then do
        let (suffix, rest) ← scanAddress? false rest
        if suffix.isEmpty then none else some (⟨handle, suffix⟩, rest)
      else do
        let (suffix, rest) ← scanAddress? false rest
        let suffix := handle.drop 1 ++ suffix
        some (if suffix.isEmpty then ⟨[], ['!']⟩ else ⟨['!'], suffix⟩, rest)
  | [] => some (⟨[], ['!']⟩, [])

/-- The tag after its sign, when it ends where a tag may end. -/
def scanTag? (bracketed : Bool) (ss : List Spot) : Option (TagText × List Spot) := do
  let (tag, rest) ← scanTagText? ss
  if (bracketed && startsWith ',' rest) || atWordEnd rest then some (tag, rest) else none

/-! ### Directives -/

/-- What a directive says. -/
inductive Directive
  | version (major minor : Nat)
  /-- What a handle stands for. -/
  | tag (handle start : List Char)
deriving DecidableEq

/-- A number of a version: at most nine digits. -/
def scanVersionPart? (ss : List Spot) : Option (Nat × List Spot) :=
  let digits := textOf (ss.takeWhile fun s => s.char.isDigit)
  if digits.isEmpty || 9 < digits.length then none
  else some (Text.digitsValue digits, ss.dropWhile fun s => s.char.isDigit)

/-- A version: two numbers and a point. -/
def scanVersion? (ss : List Spot) : Option (Directive × List Spot) := do
  let (major, rest) ← scanVersionPart? ss
  match rest with
  | s :: rest =>
    if s.char = '.' then do
      let (minor, rest) ← scanVersionPart? rest
      pure (.version major minor, rest)
    else none
  | [] => none

/-- A handle and what it stands for. -/
def scanTagDirective? (ss : List Spot) : Option (Directive × List Spot) := do
  match ss with
  | s :: rest =>
    let (handle, rest) := scanHandle rest
    if s.char ≠ '!' || (handle.getLast? ≠ some '!') || !rest.head?.any (fun s => isBlank s.char) then none
    let (address, rest) ← scanAddress? true (skipBlanks rest)
    if address.isEmpty || !atWordEnd rest then none else some (.tag handle address, rest)
  | [] => none

/-- The directive after its sign, and the next line. -/
def scanDirective? (ss : List Spot) : Option (Directive × List Spot) := do
  let (name, rest) := scanName ss
  if !atWordEnd rest then none
  let rest := skipBlanks rest
  let (directive, rest) ←
    if name = ['Y', 'A', 'M', 'L'] then scanVersion? rest
    else if name = ['T', 'A', 'G'] then scanTagDirective? rest
    else none
  pure (directive, ← finishLine? rest)

end Tablewright.Yaml
