/-
Number literals of JSON.

A literal without a fraction and an exponent is a whole number when it fits 64
bits.  Every other literal is a double, computed in two steps that each round:
the digits are gathered into a significand of 64 bits, and the significand is
multiplied or divided by one power of ten.  The result may therefore differ from
the double nearest to the literal in its last bit.
-/
import Tablewright.Document.Tree
import Tablewright.Text.Digits

namespace Tablewright.Json

open Document

/-- A number literal, taken apart. -/
structure Numeral where
  negative : Bool
  /-- The digits before the point, of which there is at least one. -/
  integer : List Char
  /-- The digits after the point, if there is a point. -/
  fraction : Option (List Char)
  /-- Whether the exponent is negative, and its digits, if there is an exponent. -/
  exponent : Option (Bool × List Char)
deriving DecidableEq

/-! ### Gathering the significand -/

/-- Digits gathered so far: the significand, and how many digits found no room in it. -/
structure Gathered where
  significand : Nat
  dropped : Nat
deriving DecidableEq

namespace Gathered

/-- Takes one more digit, unless the significand would leave 64 bits or a digit was dropped before. -/
def push (g : Gathered) (c : Char) : Gathered :=
  let next := 10 * g.significand + Text.digitValue c
  if g.dropped = 0 && next < Nat.pow 2 64 then { g with significand := next }
  else { g with dropped := g.dropped + 1 }

/-- Gathers digits on top of a significand. -/
def digits (start : Nat) (cs : List Char) : Gathered :=
  cs.foldl push ⟨start, 0⟩

end Gathered

/-! ### Scaling -/

/-- The double nearest to a power of ten; the power is at most `10 ^ 308`. -/
def powerOfTen (n : Nat) : Binary64 :=
  (Binary64.nearest? false (Nat.pow 10 n) 1).getD (.zero false)

/-- A double divided by `10 ^ 308` several times, or until nothing is left of it. -/
def lowered? : Nat → Binary64 → Option Binary64
  | 0, x => some x
  | steps + 1, x => if x.bits = 0 then some x else (x.div? (powerOfTen 308)).bind (lowered? steps)

/-- A double times a power of ten, in one rounding where the power has a double of its own.
A smaller power is reached by dividing by `10 ^ 308` first; a greater one is out of range. -/
def scaled? (x : Binary64) (exponent : Int) : Option Binary64 :=
  if x.bits = 0 then some x
  else if 308 < exponent then none
  else if 0 ≤ exponent then x.mul? (powerOfTen exponent.toNat)
  else
    let steps := (exponent.natAbs - 1) / 308
    (lowered? steps x).bind fun x =>
      if x.bits = 0 then some x else x.div? (powerOfTen (exponent.natAbs - 308 * steps))

/-- The double of a sign, a significand and a power of ten. -/
def double? (negative : Bool) (significand : Nat) (exponent : Int) : Option Binary64 := do
  scaled? (← Binary64.nearest? negative significand 1) exponent

/-- The greatest exponent that is read digit by digit. -/
def exponentLimit : Nat := Nat.pow 2 31 - 1

namespace Numeral

/-- The number a literal denotes, unless it is out of range. -/
def number? (n : Numeral) : Option Number :=
  let whole := Gathered.digits 0 n.integer
  match n.fraction, n.exponent with
  | none, none =>
    if whole.dropped = 0 then
      if n.negative then
        if whole.significand = 0 then some (.binary (.zero true))
        else (Number.ofInt? (-whole.significand)).or
          ((Binary64.nearest? true whole.significand 1).map .binary)
      else Number.ofInt? whole.significand
    else (double? n.negative whole.significand whole.dropped).map .binary
  | fraction, exponent =>
    let places := fraction.getD []
    let all := Gathered.digits whole.significand places
    let shift : Int := whole.dropped - (places.length - all.dropped : Nat)
    match exponent with
    | none => (double? n.negative all.significand shift).map .binary
    | some (below, digits) =>
      let exponent := Text.digitsValue digits
      if exponentLimit < exponent then
        if all.significand ≠ 0 && !below then none else some (.binary (.zero n.negative))
      else
        (double? n.negative all.significand (if below then shift - exponent else shift + exponent)).map
          .binary

end Numeral

/-! ### Scanning -/

/-- Why a literal is broken off: a reader tells the end of the text apart from a wrong character. -/
def numeralBreak (rest : List Char) : Break :=
  ⟨if rest.isEmpty then .endOfText .value else .malformedNumber, some .malformedNumber,
    .expectedValue⟩

/-- Scans the digits of an exponent after its sign. -/
def scanExponentDigits (below : Bool) (cs : List Char) : Except Break ((Bool × List Char) × List Char) :=
  let digits := cs.takeWhile Char.isDigit
  let rest := cs.dropWhile Char.isDigit
  if digits.isEmpty then throw (numeralBreak rest) else pure ((below, digits), rest)

/-- Scans an exponent, if there is one. -/
def scanExponent (cs : List Char) : Except Break (Option (Bool × List Char) × List Char) :=
  match cs with
  | e :: rest =>
    if e = 'e' || e = 'E' then do
      let (exponent, rest) ← match rest with
        | '-' :: rest => scanExponentDigits true rest
        | '+' :: rest => scanExponentDigits false rest
        | rest => scanExponentDigits false rest
      pure (some exponent, rest)
    else pure (none, cs)
  | [] => pure (none, [])

/-- Scans a fraction, if there is one. -/
def scanFraction (cs : List Char) : Except Break (Option (List Char) × List Char) :=
  match cs with
  | '.' :: rest =>
    let digits := rest.takeWhile Char.isDigit
    let rest := rest.dropWhile Char.isDigit
    if digits.isEmpty then throw (numeralBreak rest) else pure (some digits, rest)
  | _ => pure (none, cs)

/-- Scans the literal after its sign. -/
def scanUnsigned (negative : Bool) (cs : List Char) : Except Break (Numeral × List Char) := do
  let integer := cs.takeWhile Char.isDigit
  let rest := cs.dropWhile Char.isDigit
  if integer.isEmpty then throw (numeralBreak rest)
  if 1 < integer.length ∧ integer.head? = some '0' then
    throw ⟨.malformedNumber, some .malformedNumber, .expectedValue⟩
  let (fraction, rest) ← scanFraction rest
  let (exponent, rest) ← scanExponent rest
  pure (⟨negative, integer, fraction, exponent⟩, rest)

/-- Scans a literal and gives the text after it. -/
def scanNumeral (cs : List Char) : Except Break (Numeral × List Char) :=
  match cs with
  | '-' :: rest => scanUnsigned true rest
  | rest => scanUnsigned false rest

end Tablewright.Json
