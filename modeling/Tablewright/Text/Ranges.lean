/-
Properties of characters, given by ranges of code points.

A property is a list of closed ranges in increasing order, as the Unicode
character database lists it.
-/
namespace Tablewright.Text

/-- Whether a code point lies in one of the ranges. -/
def listed (ranges : List (Nat × Nat)) (code : Nat) : Bool :=
  ranges.any fun (first, last) => first ≤ code && code ≤ last

end Tablewright.Text
