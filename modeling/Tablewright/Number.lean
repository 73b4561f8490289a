/-
The numbers a model may hold.

A number is an integer that fits 64 bits, signed when negative and unsigned
otherwise, or a finite double.  The two kinds never mix: `1` and `1.0` are
different numbers and have different texts, because every double is written
with a point or an exponent.
-/
import Tablewright.Decimal.Shortest

namespace Tablewright

/-- How many integers fit 64 bits. -/
def wordSize : Int := 18446744073709551616

/-- How many of them are negative when they have signs. -/
def wordHalf : Int := 9223372036854775808

/-- An integer of 64 bits or a finite double. -/
inductive Number
  | whole (value : Int) (fits : -wordHalf ≤ value ∧ value < wordSize)
  | binary (value : Binary64)
deriving DecidableEq

namespace Number

/-- The whole number of this value, when it fits. -/
def ofInt? (value : Int) : Option Number :=
  if fits : -wordHalf ≤ value ∧ value < wordSize then some (whole value fits) else none

/-- The value of a whole number that is not negative. -/
def natural? : Number → Option Nat
  | whole value _ => if 0 ≤ value then some value.toNat else none
  | binary _ => none

/-! ### The text of a number -/

/-- The exponents of the leading digit that are written out in full. -/
structure PositionalRange where
  lowest : Int
  highest : Int

/-- Doubles from `0.00001` up to sixteen places before the point are written without an exponent. -/
def positional : PositionalRange := ⟨-5, 15⟩

/-- Decimal digits with a point `places` after the first one, padded with zeros on either side;
at least one digit stands on each side of the point. -/
def pointed (digits : List Char) (leading : Int) : List Char :=
  if leading < 0 then
    '0' :: '.' :: (List.replicate (leading.natAbs - 1) '0' ++ digits)
  else
    let places := leading.toNat + 1
    let fraction := digits.drop places
    digits.take places ++ List.replicate (places - digits.length) '0' ++
      '.' :: (if fraction.isEmpty then ['0'] else fraction)

/-- One digit before the point and an exponent whose sign is written either way. -/
def scientific (digits : List Char) (leading : Int) : List Char :=
  let mantissa := match digits with
    | first :: second :: rest => first :: '.' :: second :: rest
    | short => short
  mantissa ++ 'e' :: (if leading < 0 then '-' else '+') :: Nat.toDigits 10 leading.natAbs

/-- The text of a magnitude: its shortest decimal. -/
def magnitudeText (x : Binary64) : List Char :=
  if x.bits = 0 then ['0', '.', '0']
  else
    let d := x.shortest
    if positional.lowest ≤ d.leading && d.leading ≤ positional.highest then pointed d.digits d.leading
    else scientific d.digits d.leading

/-- An integer in decimal, with a minus sign when negative. -/
def intText (n : Int) : List Char :=
  if n < 0 then '-' :: Nat.toDigits 10 n.natAbs else Nat.toDigits 10 n.natAbs

/-- The text of a number as scripts and messages show it. -/
def text : Number → String
  | whole value _ => String.ofList (intText value)
  | binary x => String.ofList (if x.negative then '-' :: magnitudeText x else magnitudeText x)

end Number

end Tablewright
