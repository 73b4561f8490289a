/-
Line folding.

A plain or a quoted scalar may go on over several lines.  Blanks inside a line
are kept.  A single line break becomes a space and of several breaks all but the
first are kept, the blanks around them being lost either way; a separator is
never turned into a space.
-/
import Tablewright.Yaml.Spot

namespace Tablewright.Yaml

/-- A piece of a scalar that is not folded yet. -/
inductive Piece
  /-- A character of its content. -/
  | content (c : Char)
  | blank (c : Char)
  | lineBreak (c : Char)
  /-- A line break that is taken back. -/
  | continued
deriving DecidableEq

/-- What stands between two characters of the content. -/
inductive Gap
  /-- Blanks in one line. -/
  | within (blanks : List Char)
  /-- Line breaks: the first one, unless it was taken back, and those after it. -/
  | across (first : Option Char) (more : List Char)
deriving DecidableEq

namespace Gap

/-- No gap. -/
def none : Gap := within []

/-- A gap with one more blank. -/
def blank (c : Char) : Gap → Gap
  | within blanks => within (blanks ++ [c])
  | gap => gap

/-- A gap with one more line break. -/
def lineBreak (c : Char) : Gap → Gap
  | within _ => across (some c) []
  | across first more => across first (more ++ [c])

/-- What is left of a gap. -/
def text : Gap → List Char
  | within blanks => blanks
  | across (some '\n') [] => [' ']
  | across (some '\n') more => more
  | across first more => first.toList ++ more

end Gap

/-- The content of some pieces after a gap, up to its last character, and the gap after that. -/
def foldFrom (gap : Gap) : List Piece → List Char × Gap
  | [] => ([], gap)
  | .content c :: rest =>
    let (text, last) := foldFrom .none rest
    (gap.text ++ c :: text, last)
  | .blank c :: rest => foldFrom (gap.blank c) rest
  | .lineBreak c :: rest => foldFrom (gap.lineBreak c) rest
  | .continued :: rest =>
    let (text, last) := foldFrom (.across Option.none []) rest
    (gap.text ++ text, last)

/-- The text of a scalar that ends with its last character. -/
def foldOpen (pieces : List Piece) : String :=
  String.ofList (foldFrom .none pieces).1

/-- The text of a scalar that ends with a quote. -/
def foldClosed (pieces : List Piece) : String :=
  let (text, gap) := foldFrom .none pieces
  String.ofList (text ++ gap.text)

/-- A character as a piece. -/
def pieceOf (c : Char) : Piece :=
  if isBlank c then .blank c else if isBreak c then .lineBreak c else .content c

end Tablewright.Yaml
