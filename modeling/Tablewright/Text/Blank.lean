/-
White space, and text that holds nothing else.

A character is blank when it has the Unicode property `White_Space`.
-/
import Tablewright.Text.Ranges

namespace Tablewright.Text

/-- The code points with the property `White_Space`. -/
def blankRanges : List (Nat × Nat) := [
  (0x9, 0xD), (0x20, 0x20), (0x85, 0x85), (0xA0, 0xA0), (0x1680, 0x1680), (0x2000, 0x200A),
  (0x2028, 0x2029), (0x202F, 0x202F), (0x205F, 0x205F), (0x3000, 0x3000)]

/-- Whether a character is white space. -/
def isBlankChar (c : Char) : Bool :=
  listed blankRanges c.toNat

/-- Whether a text is empty or holds white space only. -/
def isBlank (s : String) : Bool :=
  s.toList.all isBlankChar

/-- The text without the white space at its ends. -/
def trim (s : String) : String :=
  let front := s.toList.dropWhile isBlankChar
  String.ofList (front.reverse.dropWhile isBlankChar).reverse

end Tablewright.Text
