/-
Block scalars.

A block scalar is the lines below its header that are indented far enough.  Its
indentation is written in the header or taken from its first lines.  A literal
scalar keeps its line breaks; a folded one turns the break between two lines of
text into a space, unless one of them starts with a blank.
-/
import Tablewright.Yaml.Spot

namespace Tablewright.Yaml

/-- What becomes of the line breaks at the end of a block scalar. -/
inductive Chomping
  | strip
  | clip
  | keep
deriving DecidableEq

/-- What stands in the header of a block scalar. -/
structure BlockHeader where
  chomping : Chomping
  /-- How much further the scalar is indented than its parent, when the header says so. -/
  increment : Option Nat
deriving DecidableEq

/-- The chomping of a sign. -/
def chomping? (s : Spot) : Option Chomping :=
  if s.char = '+' then some .keep else if s.char = '-' then some .strip else none

/-- Scans a header of an indentation and a chomping, in either order. -/
def scanHeader? (ss : List Spot) : Option (BlockHeader × List Spot) :=
  let chomping (ss : List Spot) : Chomping × List Spot :=
    match ss with
    | s :: rest => (chomping? s).elim (.clip, ss) (·, rest)
    | [] => (.clip, [])
  let increment (ss : List Spot) : Option (Option Nat × List Spot) :=
    match ss with
    | s :: rest =>
      if s.char = '0' then none
      else if s.char.isDigit then some (some (s.char.toNat - '0'.toNat), rest)
      else some (none, ss)
    | [] => some (none, [])
  match chomping ss with
  | (.clip, _) => do
    let (size, rest) ← increment ss
    match size with
    | some _ =>
      let (chomp, rest) := chomping rest
      pure (⟨chomp, size⟩, rest)
    | none => pure (⟨.clip, none⟩, rest)
  | (chomp, rest) => do
    let (size, rest) ← increment rest
    pure (⟨chomp, size⟩, rest)

/-- How far the first line with text is indented, or the most indented line before it; a tab may
not take part in it. -/
def firstIndent? (deepest : Nat) : List Spot → Option Nat
  | [] => some deepest
  | s :: rest =>
    if s.char = ' ' then firstIndent? (max deepest (s.column + 1)) rest
    else if s.char = '\t' then none
    else if isBreak s.char then firstIndent? deepest rest
    else some deepest

/-- How far a block scalar has been scanned. -/
structure BlockText where
  /-- The text so far, its characters in reverse. -/
  text : List Char
  /-- The break after the last line. -/
  lastBreak : Option Char
  /-- The breaks after that one. -/
  moreBreaks : List Char
  /-- Whether the last line started with a blank. -/
  blankStart : Bool
deriving DecidableEq

/-- What a folded scalar puts between its last line and one that starts with the given character. -/
def BlockText.between (t : BlockText) (folded : Bool) (c : Char) : List Char :=
  if folded && t.lastBreak = some '\n' && !t.blankStart && !isBlank c then
    if t.moreBreaks.isEmpty then [' '] else t.moreBreaks
  else t.lastBreak.toList ++ t.moreBreaks

/-- Starts a line with its first character. -/
def BlockText.startLine (t : BlockText) (folded : Bool) (c : Char) : BlockText :=
  ⟨c :: (t.between folded c).reverse ++ t.text, none, [], isBlank c⟩

/-- Scans the lines of a block scalar; `inLine` says whether the next character belongs to a line
that has started. -/
def scanLines? (folded : Bool) (indent : Nat) :
    (inLine : Bool) → BlockText → List Spot → Option (BlockText × List Spot)
  | _, t, [] => some (t, [])
  | true, t, s :: rest =>
    if isBreak s.char then scanLines? folded indent false { t with lastBreak := some s.char } rest
    else scanLines? folded indent true { t with text := s.char :: t.text } rest
  | false, t, s :: rest =>
    if s.column < indent && s.char = ' ' then scanLines? folded indent false t rest
    else if s.column < indent && s.char = '\t' then none
    else if isBreak s.char then
      scanLines? folded indent false { t with moreBreaks := t.moreBreaks ++ [s.char] } rest
    else if s.column = indent then scanLines? folded indent true (t.startLine folded s.char) rest
    else some (t, s :: rest)

/-- What is left of the breaks at the end. -/
def BlockText.tail (t : BlockText) : Chomping → List Char
  | .strip => []
  | .clip => t.lastBreak.toList
  | .keep => t.lastBreak.toList ++ t.moreBreaks

/-- The text of a block scalar after its sign, and the text after it; `margin` is the least column
that its lines may start in. -/
def scanBlock? (folded : Bool) (margin : Nat) (ss : List Spot) : Option (String × List Spot) := do
  let (header, rest) ← scanHeader? ss
  let rest ← finishLine? rest
  let indent ← match header.increment with
    | some size => some (margin - 1 + size)
    | none => (firstIndent? 0 rest).map fun column => max (max column margin) 1
  let (t, rest) ← scanLines? folded indent false ⟨[], none, [], false⟩ rest
  pure (String.ofList (t.text.reverse ++ t.tail header.chomping), rest)

end Tablewright.Yaml
