/-
The shortest decimal of a double.

A decimal reads back as a double when it lies in the interval of reals that
round to that double: half way to either neighbour, the ends included exactly
when the significand is even.  The powers of ten give coarser and finer grids,
and the decimal wanted is the point of the coarsest grid that has a point in the
interval, the nearer one where it has two, and the one with an even last digit
where both are as near.
-/
import Tablewright.Decimal.Binary64

namespace Tablewright

/-- The positive decimal `coefficient * 10 ^ exponent`. -/
structure Decimal where
  coefficient : Nat
  exponent : Int
deriving DecidableEq

namespace Decimal

/-- The digits of the coefficient, most significant first. -/
def digits (d : Decimal) : List Char :=
  Nat.toDigits 10 d.coefficient

/-- The power of ten of the leading digit. -/
def leading (d : Decimal) : Int :=
  d.exponent + (d.digits.length : Int) - 1

end Decimal

namespace Binary64

/-- The reals that round to a double, over one common denominator. -/
structure Interval where
  low : Nat
  value : Nat
  high : Nat
  /-- Whether the two ends belong to it. -/
  closed : Bool

namespace Interval

/-- Whether a numerator over the common denominator lies in the interval. -/
def holds (i : Interval) (x : Nat) : Bool :=
  if i.closed then i.low ≤ x && x ≤ i.high else i.low < x && x < i.high

/-- The multiple of `step` nearest to the value, among the two around it that lie in the
interval: how many steps it is. -/
def nearestPoint? (i : Interval) (step : Nat) : Option Nat :=
  let below := i.value / step
  let above := below + 1
  match i.holds (below * step), i.holds (above * step) with
  | true, true =>
    let down := i.value - below * step
    let up := above * step - i.value
    if down < up then some below
    else if up < down then some above
    else some (below + below % 2)
  | true, false => some below
  | false, true => some above
  | false, false => none

end Interval

/-- Powers of ten below this one are finer than any double needs. -/
def finest : Nat := 343

/-- The interval of a positive double, over the denominator `2 ^ 1076`, times `10 ^ finest`.

Below a power of two the neighbour is half as far away, except among the smallest doubles. -/
def interval (x : Binary64) : Interval :=
  let unit := Nat.pow 2 x.shift * Nat.pow 10 finest
  let m := 4 * x.significand
  let gap := if x.significand = Nat.pow 2 52 && 0 < x.shift then 1 else 2
  ⟨(m - gap) * unit, m * unit, (m + 2) * unit, x.significand % 2 == 0⟩

/-- The point of the coarsest grid among `10 ^ 0, …, 10 ^ size`, counted from the finest. -/
def coarsestPoint (i : Interval) : (size : Nat) → Decimal
  | 0 => ⟨(i.nearestPoint? (Nat.pow 2 1076)).getD 0, -finest⟩
  | size + 1 =>
    match i.nearestPoint? (Nat.pow 2 1076 * Nat.pow 10 (size + 1)) with
    | some n => ⟨n, (size + 1 : Nat) - (finest : Int)⟩
    | none => coarsestPoint i size

/-- The shortest decimal that reads back as the magnitude of a double other than zero. -/
def shortest (x : Binary64) : Decimal :=
  coarsestPoint x.interval (finest + 309)

end Binary64

end Tablewright
