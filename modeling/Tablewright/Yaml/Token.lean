/-
The tokens of a YAML text.

Blocks have no brackets; their ends show in the indentation, and that a map
starts shows only at the colon after its first key.  The scan therefore
remembers where a key may have started, one place for every level of brackets,
and puts the tokens that open a map back there once the colon has come.  Such a
key lies on one line and within a bounded number of characters of its colon.
-/
import Tablewright.Yaml.Block
import Tablewright.Yaml.Plain
import Tablewright.Yaml.Property
import Tablewright.Yaml.Quoted

namespace Tablewright.Yaml

/-- How a scalar is written, as far as it matters to what it says. -/
inductive Style
  | plain
  | literal
  | other
deriving DecidableEq

/-- A token. -/
inductive Token
  | directive (d : Directive)
  | documentStart
  | documentEnd
  | blockList
  | blockMap
  | blockEnd
  | openList
  | closeList
  | openMap
  | closeMap
  | comma
  /-- The dash of an item. -/
  | item
  | key
  | value
  | alias (name : String)
  | anchor (name : String)
  | tag (text : TagText)
  | scalar (style : Style) (text : String)
deriving DecidableEq

/-- Where a key may have started. -/
structure KeyStart where
  /-- Whether nothing but a key may stand there. -/
  required : Bool
  /-- How many tokens come before it. -/
  tokens : Nat
  index : Nat
  line : Nat
  column : Nat
deriving DecidableEq

/-- The greatest distance between the start of a key and its colon. -/
def keyReach : Nat := 1024

/-- Whether a colon here is too far away from the start of a key. -/
def KeyStart.isStale (k : KeyStart) (s : Spot) : Bool :=
  k.line < s.line || k.index + keyReach < s.index

/-- How far a text has been scanned. -/
structure Scan where
  /-- The tokens so far, the last one first. -/
  tokens : List Token := []
  /-- The columns of the open blocks, the innermost one first. -/
  blocks : List Nat := []
  /-- Where a key may have started on this level of brackets. -/
  keyStart : Option KeyStart := none
  /-- Where keys may have started on the levels outside. -/
  outside : List (Option KeyStart) := []
  /-- Whether a key may start here. -/
  keyAllowed : Bool := true

namespace Scan

/-- Whether the scan is inside brackets. -/
def bracketed (sc : Scan) : Bool :=
  !sc.outside.isEmpty

/-- The least column that belongs to the innermost block without starting a part of it. -/
def margin (sc : Scan) : Nat :=
  match sc.blocks with
  | column :: _ => column + 1
  | [] => 0

/-- Adds a token. -/
def push (sc : Scan) (t : Token) : Scan :=
  { sc with tokens := t :: sc.tokens }

/-- Puts a token back where only `before` tokens had come. -/
def insert (sc : Scan) (before : Nat) (t : Token) : Scan :=
  let later := sc.tokens.length - before
  { sc with tokens := sc.tokens.take later ++ t :: sc.tokens.drop later }

/-- Allows or forbids a key here. -/
def allowKey (sc : Scan) (allowed : Bool) : Scan :=
  { sc with keyAllowed := allowed }

/-! ### Blocks -/

/-- Closes the blocks indented further than a column. -/
def closeDeeper (sc : Scan) (column : Nat) : Scan :=
  if sc.bracketed then sc
  else
    let closed := sc.blocks.takeWhile (column < ·)
    { sc with
      blocks := sc.blocks.drop closed.length
      tokens := List.replicate closed.length .blockEnd ++ sc.tokens }

/-- Closes all blocks. -/
def closeAll (sc : Scan) : Scan :=
  if sc.bracketed then sc
  else { sc with
    blocks := []
    tokens := List.replicate sc.blocks.length .blockEnd ++ sc.tokens }

/-- Opens a block at a column that lies deeper than the innermost one, at the place in front of
which `before` tokens came. -/
def openBlock (sc : Scan) (column before : Nat) (t : Token) : Scan :=
  if sc.bracketed || column < sc.margin then sc
  else { sc.insert before t with blocks := column :: sc.blocks }

/-! ### Starts of keys -/

/-- Gives up the start of a key, unless a key is required there. -/
def dropKey? (sc : Scan) : Option Scan :=
  if sc.keyStart.any KeyStart.required then none else some { sc with keyStart := none }

/-- Notes that a key may start here. -/
def saveKey? (sc : Scan) (s : Spot) : Option Scan :=
  if sc.keyAllowed then do
    let sc ← sc.dropKey?
    let required := !sc.bracketed && sc.blocks.head? = some s.column
    pure { sc with keyStart := some ⟨required, sc.tokens.length, s.index, s.line, s.column⟩ }
  else some sc

/-- The start of a key, unless it is too far away. -/
def fresh? (s : Spot) : Option KeyStart → Option (Option KeyStart)
  | none => some none
  | some k =>
    if k.isStale s then (if k.required then none else some none) else some (some k)

/-- Gives up the starts of keys that are too far away. -/
def dropStale? (sc : Scan) (s : Spot) : Option Scan := do
  let keyStart ← fresh? s sc.keyStart
  let outside ← sc.outside.mapM (fresh? s)
  pure { sc with keyStart, outside }

/-! ### Single tokens -/

/-- Takes a sign that ends all blocks. -/
def boundary? (sc : Scan) (t : Token) : Option Scan := do
  let sc ← sc.closeAll.dropKey?
  pure ((sc.push t).allowKey false)

/-- Takes an opening bracket. -/
def bracket? (sc : Scan) (s : Spot) (t : Token) : Option Scan := do
  let sc ← sc.saveKey? s
  pure { sc.push t with keyStart := none, outside := sc.keyStart :: sc.outside, keyAllowed := true }

/-- Takes a closing bracket. -/
def unbracket? (sc : Scan) (t : Token) : Option Scan := do
  let sc ← sc.dropKey?
  let sc := match sc.outside with
    | keyStart :: outside => { sc with keyStart, outside }
    | [] => sc
  pure ((sc.push t).allowKey false)

/-- Takes a comma. -/
def comma? (sc : Scan) : Option Scan := do
  let sc ← sc.dropKey?
  pure ((sc.push .comma).allowKey true)

/-- Takes the dash of an item. -/
def item? (sc : Scan) (s : Spot) : Option Scan := do
  if !sc.bracketed && !sc.keyAllowed then none
  let sc ← (sc.openBlock s.column sc.tokens.length .blockList).dropKey?
  pure ((sc.push .item).allowKey true)

/-- Takes the sign of a key. -/
def key? (sc : Scan) (s : Spot) : Option Scan := do
  if !sc.bracketed && !sc.keyAllowed then none
  let sc ← (sc.openBlock s.column sc.tokens.length .blockMap).dropKey?
  pure ((sc.push .key).allowKey (!sc.bracketed))

/-- Takes the colon of a value. -/
def value? (sc : Scan) (s : Spot) : Option Scan :=
  match sc.keyStart with
  | some k =>
    let sc := (sc.insert k.tokens .key).openBlock k.column k.tokens .blockMap
    some { sc.push .value with keyStart := none, keyAllowed := false }
  | none => do
    if !sc.bracketed && !sc.keyAllowed then none
    let sc := sc.openBlock s.column sc.tokens.length .blockMap
    pure ((sc.push .value).allowKey (!sc.bracketed))

/-- Takes something that a key may consist of. -/
def part? (sc : Scan) (s : Spot) (t : Token) : Option Scan := do
  let sc ← sc.saveKey? s
  pure ((sc.push t).allowKey false)

/-- Takes a block scalar. -/
def block? (sc : Scan) (folded : Bool) (ss : List Spot) : Option (Scan × List Spot) := do
  let sc ← sc.dropKey?
  let (text, rest) ← scanBlock? folded sc.margin ss
  pure ((sc.push (.scalar (if folded then .other else .literal) text)).allowKey true, rest)

/-- Takes a plain scalar. -/
def plain? (sc : Scan) (s : Spot) (ss : List Spot) : Option (Scan × List Spot) := do
  let (text, broken, rest) ← scanPlain? ⟨sc.bracketed, sc.margin⟩ ss
  pure ((← sc.part? s (.scalar .plain text)).allowKey broken, rest)

end Scan

/-! ### The scan -/

/-- Passes over blanks, comments and line breaks; tells whether a key may start after them. -/
def skipGap (bracketed : Bool) : (inComment keyAllowed : Bool) → List Spot → Bool × List Spot
  | _, keyAllowed, [] => (keyAllowed, [])
  | inComment, keyAllowed, s :: rest =>
    if isBreak s.char then skipGap bracketed false (keyAllowed || !bracketed) rest
    else if inComment || s.char = '#' then skipGap bracketed true keyAllowed rest
    else if s.char = ' ' || (s.char = '\t' && (bracketed || !keyAllowed)) ||
        (s.char = byteOrderMark && s.column = 0) then
      skipGap bracketed false keyAllowed rest
    else (keyAllowed, s :: rest)

/-- Whether a plain scalar may start with a character. -/
def startsPlain (bracketed : Bool) (c : Char) (rest : List Spot) : Bool :=
  if c = '-' then true
  else if c = '?' || c = ':' then !bracketed && !atWordEnd rest
  else !(isBlank c || isFlowSign c || "#&*!|>'\"%@\x60".toList.contains c)

/-- Takes the token that starts with a character; gives the text after it. -/
def Scan.token? (sc : Scan) (s : Spot) (rest : List Spot) : Option (Scan × List Spot) :=
  let c := s.char
  let separate := sc.bracketed || atWordEnd rest
  match documentSign? (s :: rest) with
  | some sign => do
    pure (← sc.boundary? (if sign = '-' then .documentStart else .documentEnd), rest.drop 2)
  | none =>
    if c = '%' && s.column = 0 then do
      let (directive, rest) ← scanDirective? rest
      pure (← sc.boundary? (.directive directive), rest)
    else if c = '[' then do pure (← sc.bracket? s .openList, rest)
    else if c = '\x7b' then do pure (← sc.bracket? s .openMap, rest)
    else if c = ']' then do pure (← sc.unbracket? .closeList, rest)
    else if c = '\x7d' then do pure (← sc.unbracket? .closeMap, rest)
    else if c = ',' then do pure (← sc.comma?, rest)
    else if c = '-' && atWordEnd rest then do pure (← sc.item? s, rest)
    else if c = '?' && separate then do pure (← sc.key? s, rest)
    else if c = ':' && separate then do pure (← sc.value? s, rest)
    else if c = '*' then do
      let (name, rest) ← scanAnchor? rest
      pure (← sc.part? s (.alias name), rest)
    else if c = '&' then do
      let (name, rest) ← scanAnchor? rest
      pure (← sc.part? s (.anchor name), rest)
    else if c = '!' then do
      let (tag, rest) ← scanTag? sc.bracketed rest
      pure (← sc.part? s (.tag tag), rest)
    else if (c = '|' || c = '>') && !sc.bracketed then sc.block? (c = '>') rest
    else if c = '\'' || c = '"' then do
      let (text, rest) ← scanQuoted? c rest
      pure (← sc.part? s (.scalar .other text), rest)
    else if startsPlain sc.bracketed c rest then sc.plain? s (s :: rest)
    else none

/-- Scans at most `rounds` tokens and the end of the text. -/
def Scan.run? : (rounds : Nat) → Scan → List Spot → Option Scan
  | 0, _, _ => none
  | rounds + 1, sc, ss =>
    let (keyAllowed, rest) := skipGap sc.bracketed false sc.keyAllowed ss
    let sc := sc.allowKey keyAllowed
    match rest with
    | [] => sc.closeAll.dropKey?
    | s :: rest => do
      let sc ← sc.dropStale? s
      let (sc, rest) ← (sc.closeDeeper s.column).token? s rest
      run? rounds sc rest

/-- The tokens of a text; every round takes at least one character. -/
def tokens? (s : String) : Option (List Token) := do
  let ss ← spots? s
  let sc ← Scan.run? (ss.length + 1) {} ss
  pure sc.tokens.reverse

end Tablewright.Yaml
