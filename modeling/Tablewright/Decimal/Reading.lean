/-
Decimals read as doubles.

A decimal is rounded once, to the double nearest to it.  Exponents that no
double comes near are settled first, so that no power of ten is larger than the
decimals of doubles need.
-/
import Tablewright.Decimal.Binary64
import Tablewright.Text.Digits

namespace Tablewright

/-- A decimal as it is written: its digits on both sides of the point and its exponent. -/
structure DecimalLiteral where
  negative : Bool
  integer : List Char
  fraction : List Char
  exponent : Int
deriving DecidableEq

namespace DecimalLiteral

/-- The power of ten that no double reaches, and below whose inverse every double is zero. -/
def outermost : Int := 400

/-- The double nearest to the literal; nothing when it is infinite. -/
def double? (d : DecimalLiteral) : Option Binary64 :=
  let digits := (d.integer ++ d.fraction).dropWhile (· = '0')
  let exponent := d.exponent - d.fraction.length
  let magnitude := exponent + digits.length
  if digits.isEmpty || magnitude < -outermost then some (.zero d.negative)
  else if outermost < magnitude then none
  else if 0 ≤ exponent then
    Binary64.nearest? d.negative (Text.digitsValue digits * Nat.pow 10 exponent.toNat) 1
  else Binary64.nearest? d.negative (Text.digitsValue digits) (Nat.pow 10 exponent.natAbs)

end DecimalLiteral

end Tablewright
