/-
The doubles that a model's numbers may be.

A finite double is a sign and a magnitude.  Magnitudes are kept by their bit
pattern, which numbers them in order: the next magnitude up is the next natural
number.  Everything here is exact arithmetic on natural numbers; a ratio of two
naturals is rounded once, to the nearest double, and a half goes to the even
neighbour.
-/
namespace Tablewright

/-- A finite IEEE 754 double: its sign and the bit pattern of its magnitude. -/
structure Binary64 where
  /-- Whether the sign bit is set; zero has both signs. -/
  negative : Bool
  /-- The bit pattern without the sign. -/
  bits : Nat
  /-- The pattern lies below the one of infinity. -/
  finite : bits < 2047 * Nat.pow 2 52
deriving DecidableEq

namespace Binary64

/-- The zero of either sign. -/
def zero (negative : Bool) : Binary64 :=
  ⟨negative, 0, by decide⟩

/-- The integer part of the magnitude: the magnitude is `significand * 2 ^ shift / 2 ^ 1074`. -/
def significand (x : Binary64) : Nat :=
  if x.bits < Nat.pow 2 52 then x.bits else x.bits % Nat.pow 2 52 + Nat.pow 2 52

/-- How far the significand is shifted above the smallest positive double. -/
def shift (x : Binary64) : Nat :=
  x.bits / Nat.pow 2 52 - 1

/-- The magnitude as a multiple of the smallest positive double, which is `1 / 2 ^ 1074`. -/
def units (x : Binary64) : Nat :=
  x.significand * Nat.pow 2 x.shift

/-! ### Rounding a ratio -/

/-- The integer nearest to `num / den`; a half goes to the even neighbour. -/
def roundHalfEven (num den : Nat) : Nat :=
  let quotient := num / den
  let twice := 2 * (num % den)
  if twice < den then quotient
  else if den < twice then quotient + 1
  else quotient + quotient % 2

/-- The bit pattern nearest to `num / den`, which may be that of infinity or lie beyond it. -/
def nearestBits (num den : Nat) : Nat :=
  let units := num * Nat.pow 2 1074
  let shift := (units / den).log2 - 52
  shift * Nat.pow 2 52 + roundHalfEven units (den * Nat.pow 2 shift)

/-- The double nearest to `num / den`, unless that is infinite. -/
def nearest? (negative : Bool) (num den : Nat) : Option Binary64 :=
  if h : nearestBits num den < 2047 * Nat.pow 2 52 then some ⟨negative, nearestBits num den, h⟩
  else none

/-- The product, rounded once; nothing when it is infinite. -/
def mul? (x y : Binary64) : Option Binary64 :=
  nearest? (x.negative != y.negative) (x.units * y.units) (Nat.pow 2 2148)

/-- The quotient, rounded once; nothing when it is infinite. -/
def div? (x y : Binary64) : Option Binary64 :=
  nearest? (x.negative != y.negative) x.units y.units

end Binary64

end Tablewright
