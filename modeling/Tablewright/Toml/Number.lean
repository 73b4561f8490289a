/-
The numbers and the moments of TOML.

Digits may be set apart by single underscores.  A number in decimal has no zero
in front; one in another base has no sign.  Moments are checked but nothing is
computed with them.
-/
import Tablewright.Decimal.Reading
import Tablewright.Document.Tree
import Tablewright.Toml.Text

namespace Tablewright.Toml

open Document

/-- The digits after the first one, each group of which may follow an underscore. -/
def scanMoreDigits (isDigit : Char → Bool) : List Char → List Char × List Char
  | [] => ([], [])
  | '_' :: c :: rest =>
    if isDigit c then
      let (digits, rest) := scanMoreDigits isDigit rest
      (c :: digits, rest)
    else ([], '_' :: c :: rest)
  | c :: rest =>
    if isDigit c then
      let (digits, rest) := scanMoreDigits isDigit rest
      (c :: digits, rest)
    else ([], c :: rest)

/-- One or more digits, without the underscores between them. -/
def scanDigits (isDigit : Char → Bool) : Rule (List Char)
  | [] => none
  | c :: rest =>
    if isDigit c then
      let (digits, rest) := scanMoreDigits isDigit rest
      some (c :: digits, rest)
    else none

/-- Whether a sign is negative, and the characters after it. -/
def scanSign : List Char → Bool × List Char
  | '+' :: rest => (false, rest)
  | '-' :: rest => (true, rest)
  | cs => (false, cs)

/-- The digits of a decimal before its point: without a zero in front, unless it is zero. -/
def scanInteger : Rule (List Char)
  | '0' :: rest => some (['0'], rest)
  | cs => scanDigits Char.isDigit cs

/-- The fraction here, which is empty when there is no point. -/
def scanFraction : Rule (List Char)
  | '.' :: rest => scanDigits Char.isDigit rest
  | cs => some ([], cs)

/-- The exponent here, if there is one. -/
def scanExponent : Rule (Option Int)
  | c :: rest =>
    if c = 'e' || c = 'E' then do
      let (negative, rest) := scanSign rest
      let (digits, rest) ← scanDigits Char.isDigit rest
      let value : Int := Text.digitsValue digits
      pure (some (if negative then -value else value), rest)
    else some (none, c :: rest)
  | [] => some (none, [])

/-- A whole number of a sign and a magnitude, when it fits 64 bits with a sign. -/
def wholeScalar? (negative : Bool) (magnitude : Nat) : Option Scalar :=
  let value : Int := if negative then -magnitude else magnitude
  if -wordHalf ≤ value ∧ value < wordHalf then (Number.ofInt? value).map .number else none

/-- A whole number in another base than ten, after its mark. -/
def scanBased (base : Nat) (cs : List Char) : Option (Scalar × List Char) := do
  let isDigit c := (Text.hexValue? c).any (· < base)
  let (digits, rest) ← scanDigits isDigit cs
  let value ← Text.natural? base digits
  pure (← wholeScalar? false value, rest)

/-- A double; one beyond all doubles must be negative, and is without bounds. -/
def doubleScalar? (d : DecimalLiteral) : Option Scalar :=
  match d.double? with
  | some x => some (.number (.binary x))
  | none => if d.negative then some .unbounded else none

/-- A number in decimal, or a word for what is beyond the numbers, after a sign. -/
def scanSigned (negative : Bool) : Rule Scalar
  | 'i' :: 'n' :: 'f' :: rest | 'n' :: 'a' :: 'n' :: rest => some (.unbounded, rest)
  | cs => do
    let (integer, rest) ← scanInteger cs
    let pointed := rest.head? = some '.'
    let (fraction, rest) ← scanFraction rest
    let (exponent, rest) ← scanExponent rest
    if pointed || exponent.isSome then
      pure (← doubleScalar? ⟨negative, integer, fraction, exponent.getD 0⟩, rest)
    else
      pure (← wholeScalar? negative (Text.digitsValue integer), rest)

/-- A number. -/
def scanNumber : Rule Scalar
  | '0' :: 'x' :: rest => scanBased 16 rest
  | '0' :: 'o' :: rest => scanBased 8 rest
  | '0' :: 'b' :: rest => scanBased 2 rest
  | cs =>
    let (negative, rest) := scanSign cs
    scanSigned negative rest

/-! ### Moments -/

/-- A number of so many decimal digits. -/
def scanFixed : (digits : Nat) → (start : Nat) → Rule Nat
  | 0, value, rest => some (value, rest)
  | digits + 1, value, c :: rest =>
    if c.isDigit then scanFixed digits (10 * value + Text.digitValue c) rest else none
  | _ + 1, _, [] => none

/-- A sign that must stand here. -/
def expect (c : Char) (cs : List Char) : Option (List Char) :=
  match cs with
  | d :: rest => if d = c then some rest else none
  | [] => none

/-- How many days a month has. -/
def daysIn (year month : Nat) : Nat :=
  if month = 2 then if year % 4 = 0 && (year % 100 ≠ 0 || year % 400 = 0) then 29 else 28
  else if [4, 6, 9, 11].contains month then 30
  else 31

/-- The characters after the date here. -/
def skipDate? (cs : List Char) : Option (List Char) := do
  let (year, rest) ← scanFixed 4 0 cs
  let (month, rest) ← scanFixed 2 0 (← expect '-' rest)
  let (day, rest) ← scanFixed 2 0 (← expect '-' rest)
  if 1 ≤ month && month ≤ 12 && 1 ≤ day && day ≤ daysIn year month then some rest else none

/-- The characters after the fraction of a second here, if there is one. -/
def skipSecondFraction? : List Char → Option (List Char)
  | '.' :: rest =>
    if rest.head?.any Char.isDigit then some (rest.dropWhile Char.isDigit) else none
  | cs => some cs

/-- The characters after the time of day here. -/
def skipTime? (cs : List Char) : Option (List Char) := do
  let (hour, rest) ← scanFixed 2 0 cs
  let (minute, rest) ← scanFixed 2 0 (← expect ':' rest)
  let (second, rest) ← scanFixed 2 0 (← expect ':' rest)
  if hour ≤ 23 && minute ≤ 59 && second ≤ 60 then skipSecondFraction? rest else none

/-- The characters after the distance from world time here, if there is one. -/
def skipOffset? : List Char → Option (List Char)
  | [] => some []
  | c :: cs =>
    if c = 'Z' || c = 'z' then some cs
    else if c = '+' || c = '-' then do
      let (hour, rest) ← scanFixed 2 0 cs
      let (minute, rest) ← scanFixed 2 0 (← expect ':' rest)
      if hour ≤ 23 && minute ≤ 59 then some rest else none
    else some (c :: cs)

/-- Whether a time of day starts here, as far as its first colon. -/
def startsTime (cs : List Char) : Bool :=
  match scanFixed 2 0 cs with
  | some (hour, ':' :: _) => hour ≤ 23
  | _ => false

/-- Whether a date starts here, as far as its first dash. -/
def startsDate (cs : List Char) : Bool :=
  match scanFixed 4 0 cs with
  | some (_, '-' :: _) => true
  | _ => false

/-- The characters after the moment here: a date, a time of day or both. -/
def skipMoment? (cs : List Char) : Option (List Char) :=
  if startsDate cs then do
    let rest ← skipDate? cs
    match rest with
    | c :: time =>
      if (c = 'T' || c = 't' || c = ' ') && startsTime time then skipOffset? (← skipTime? time)
      else some rest
    | [] => some []
  else skipTime? cs

end Tablewright.Toml
