/-
Plain scalars.

A scalar without quotes goes on until something ends it: a comment, the colon of
a key, the indentation of an outer part, the sign of a document or, inside
brackets, a character that brackets give a meaning to.
-/
import Tablewright.Yaml.Folding

namespace Tablewright.Yaml

/-- What ends a plain scalar, apart from the end of the text. -/
structure PlainBounds where
  /-- Whether it stands inside brackets. -/
  bracketed : Bool
  /-- The least column that its further lines may start in. -/
  margin : Nat

/-- Where a scan stands: after a character of the content, or after blanks and line breaks. -/
inductive PlainPlace
  | inside
  | afterBlanks
  | afterBreak
deriving DecidableEq

/-- Whether a character separates the parts inside brackets. -/
def isFlowSign (c : Char) : Bool :=
  c = ',' || c = '[' || c = ']' || c = '\x7b' || c = '\x7d'

/-- What becomes of the scalar at a character that is not blank. -/
inductive PlainStep
  | goOn
  | stop
  | fault
deriving DecidableEq

/-- Decides whether a scalar goes on with the next character, after a gap or inside a word. -/
def PlainBounds.step (b : PlainBounds) (place : PlainPlace) (s : Spot) (rest : List Spot) : PlainStep :=
  if place ≠ .inside &&
      ((!b.bracketed && s.column < b.margin) || (documentSign? (s :: rest)).isSome || s.char = '#') then
    .stop
  else if b.bracketed && s.char = ':' && rest.head?.any fun t => isFlowSign t.char || t.char = '?' then .fault
  else if (s.char = ':' && atWordEnd rest) || (b.bracketed && isFlowSign s.char) then .stop
  else .goOn

/-- Scans a plain scalar; gives its pieces, whether it ended after a line break, and the text
after it. -/
def scanPlainFrom (b : PlainBounds) : PlainPlace → List Spot → Option (List Piece × Bool × List Spot)
  | place, [] => pure ([], place = .afterBreak, [])
  | place, s :: rest =>
    if isBlank s.char then
      if place = .afterBreak && s.column < b.margin && s.char = '\t' then none
      else do
        let place := if place = .afterBreak then place else .afterBlanks
        let (pieces, after) ← scanPlainFrom b place rest
        pure (.blank s.char :: pieces, after)
    else if isBreak s.char then do
      let (pieces, after) ← scanPlainFrom b .afterBreak rest
      pure (.lineBreak s.char :: pieces, after)
    else match b.step place s rest with
      | .stop => pure ([], place = .afterBreak, s :: rest)
      | .fault => none
      | .goOn => do
        let (pieces, after) ← scanPlainFrom b .inside rest
        pure (.content s.char :: pieces, after)

/-- The text of a plain scalar, whether it ended after a line break, and the text after it. -/
def scanPlain? (b : PlainBounds) (ss : List Spot) : Option (String × Bool × List Spot) := do
  let (pieces, broken, rest) ← scanPlainFrom b .inside ss
  pure (foldOpen pieces, broken, rest)

end Tablewright.Yaml
