/-
TOML texts as trees.

A document is a sequence of lines: a header opens a table, and the lines after it
define keys in it.  Keys may be dotted, in a document and in braces alike, and
follow the same rule in both.
-/
import Tablewright.Toml.Number
import Tablewright.Toml.Table

namespace Tablewright.Toml

open Document

/-- How many brackets and braces may stand around a value. -/
def depthLimit : Nat := 79

/-- How many parts a key may have. -/
def pathLimit : Nat := 79

/-- Whether a character may stand in a key without quotes. -/
def isKeyChar (c : Char) : Bool :=
  c.isAlphanum || c = '_' || c = '-'

/-- One part of a key. -/
def scanKeyPart (cs : List Char) : Option (String × List Char) :=
  if cs.head? = some '"' || cs.head? = some '\'' then scanLineText cs
  else
    let name := cs.takeWhile isKeyChar
    if name.isEmpty then none else some (String.ofList name, cs.dropWhile isKeyChar)

/-- A key of at most `parts` parts, with the blanks around it. -/
def scanPath : (parts : Nat) → Rule (List String)
  | 0, _ => none
  | parts + 1, cs => do
    let (part, rest) ← scanKeyPart (skipBlanks cs)
    match skipBlanks rest with
    | '.' :: rest => do
      let (others, rest) ← scanPath parts rest
      pure (part :: others, rest)
    | rest => pure ([part], rest)

/-- Passes over blanks, comments and line breaks; a comment must end with its line. -/
def skipLines? : (inComment : Bool) → List Char → Option (List Char)
  | false, [] => some []
  | true, [] => none
  | inComment, c :: rest =>
    match c, rest with
    | '\n', rest | '\r', '\n' :: rest => skipLines? false rest
    | c, rest =>
      if inComment then if isPrintable c then skipLines? true rest else none
      else if isBlank c then skipLines? false rest
      else if c = '#' then skipLines? true rest
      else some (c :: rest)

/-! ### Values -/

mutual

/-- Reads a value inside which brackets and braces may stand `depth` levels deep. -/
def scanValue (depth : Nat) : (fuel : Nat) → Rule Item
  | 0, _ => none
  | fuel + 1, cs =>
    match cs with
    | '"' :: _ | '\'' :: _ => (scanText cs).map fun (text, rest) => (.scalar (.text text), rest)
    | 't' :: 'r' :: 'u' :: 'e' :: rest => some (.scalar (.flag true), rest)
    | 'f' :: 'a' :: 'l' :: 's' :: 'e' :: rest => some (.scalar (.flag false), rest)
    | '[' :: rest => do
      if depth = 0 then none
      let rest ← skipLines? false rest
      match rest with
      | ']' :: rest => some (.list [], rest)
      | rest => do
        let (items, rest) ← scanItems (depth - 1) fuel rest
        pure (.list items, rest)
    | '\x7b' :: rest => do
      if depth = 0 then none
      match skipBlanks rest with
      | '\x7d' :: rest => some (.table .braces [], rest)
      | rest => do
        let (members, rest) ← scanMembers (depth - 1) fuel [] rest
        pure (.table .braces members, rest)
    | cs =>
      if startsDate cs || startsTime cs then
        (skipMoment? cs).map fun rest => (.moment (String.ofList (cs.take (cs.length - rest.length))), rest)
      else (scanNumber cs).map fun (s, rest) => (.scalar s, rest)

/-- Reads the items of a list, of which there is at least one, and the closing bracket. -/
def scanItems (depth : Nat) : (fuel : Nat) → Rule (List Item)
  | 0, _ => none
  | fuel + 1, cs => do
    let (item, rest) ← scanValue depth fuel cs
    match ← skipLines? false rest with
    | ']' :: rest => some ([item], rest)
    | ',' :: rest => do
      match ← skipLines? false rest with
      | ']' :: rest => some ([item], rest)
      | rest => do
        let (items, rest) ← scanItems depth fuel rest
        pure (item :: items, rest)
    | _ => none

/-- Reads the members of a table in braces, of which there is at least one, and the closing brace. -/
def scanMembers (depth : Nat) : (fuel : Nat) → Members → Rule Members
  | 0, _, _ => none
  | fuel + 1, ms, cs => do
    let (path, rest) ← scanPath pathLimit cs
    let (item, rest) ← scanValue depth fuel (skipBlanks (← expect '=' rest))
    let ms ← ms.set? item path
    match skipBlanks rest with
    | '\x7d' :: rest => some (ms, rest)
    | ',' :: rest => scanMembers depth fuel ms rest
    | _ => none

end

/-! ### Documents -/

/-- A document as far as it has been read: its root and the path of the open table. -/
structure Draft where
  root : Members := []
  path : List String := []

namespace Draft

/-- Reads a header after its first bracket, and the rest of its line. -/
def header? (d : Draft) (cs : List Char) : Option (Draft × List Char) := do
  let next := cs.head? = some '['
  let (path, rest) ← scanPath pathLimit (if next then cs.drop 1 else cs)
  let rest ← expect ']' rest
  let rest ← if next then expect ']' rest else some rest
  let root ← d.root.openPath? next path
  pure (⟨root, path⟩, ← finishLine? rest)

/-- Reads the definition of a key, and the rest of its line. -/
def define? (d : Draft) (cs : List Char) : Option (Draft × List Char) := do
  let (path, rest) ← scanPath pathLimit cs
  let rest := skipBlanks (← expect '=' rest)
  let (item, rest) ← scanValue depthLimit (2 * rest.length + 2) rest
  let root ← Members.atHeader? (Members.set? item path) d.path d.root
  pure ({ d with root }, ← finishLine? rest)

/-- Reads at most `rounds` lines. -/
def lines? : (rounds : Nat) → Draft → List Char → Option Members
  | 0, _, _ => none
  | rounds + 1, d, cs =>
    match skipBlanks cs with
    | [] => some d.root
    | '\n' :: rest | '\r' :: '\n' :: rest => lines? rounds d rest
    | '#' :: rest => do lines? rounds d (← finishLine? ('#' :: rest))
    | '[' :: rest => do
      let (d, rest) ← d.header? rest
      lines? rounds d rest
    | cs => do
      let (d, rest) ← d.define? cs
      lines? rounds d rest

end Draft

/-- The tree of a text, unless the text is not well formed. -/
def parse? (s : String) : Option Tree := do
  let cs := s.toList
  let cs := if cs.head? = some '\ufeff' then cs.drop 1 else cs
  let root ← Draft.lines? (cs.length + 1) {} cs
  pure (Item.table .header root).tree

end Tablewright.Toml
