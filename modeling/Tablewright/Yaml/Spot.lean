/-
YAML texts as characters with their places.

Indentation and the reach of a key are questions about lines and columns, so a
text is first spelled out as its characters, each with the place where it stands.
Line breaks lose their spelling here, apart from the two separators of Unicode.
-/
namespace Tablewright.Yaml

/-- A character and where it stands. -/
structure Spot where
  char : Char
  /-- How many characters stand before it. -/
  index : Nat
  line : Nat
  column : Nat
deriving DecidableEq

/-- The line and the paragraph separator. -/
def isSeparator (c : Char) : Bool :=
  c = '\u2028' || c = '\u2029'

/-- Whether a character breaks the line, in a text whose breaks have lost their spelling. -/
def isBreak (c : Char) : Bool :=
  c = '\n' || isSeparator c

/-- Whether a character is blank within a line. -/
def isBlank (c : Char) : Bool :=
  c = ' ' || c = '\t'

/-- The mark of the byte order, which may start a line. -/
def byteOrderMark : Char := '\ufeff'

/-- Whether a text may hold a character as it is. -/
def isAllowed (c : Char) : Bool :=
  let n := c.toNat
  n = 0x09 || n = 0x0A || n = 0x0D || (0x20 ≤ n && n ≤ 0x7E) || n = 0x85 ||
    (0xA0 ≤ n && n ≤ 0xFFFD) || 0x10000 ≤ n

/-- The characters from a place on. -/
def spotsFrom (index line column : Nat) : List Char → List Spot
  | [] => []
  | '\r' :: '\n' :: rest => ⟨'\n', index, line, column⟩ :: spotsFrom (index + 2) (line + 1) 0 rest
  | c :: rest =>
    let c := if c = '\r' || c = '\u0085' then '\n' else c
    if isBreak c then ⟨c, index, line, column⟩ :: spotsFrom (index + 1) (line + 1) 0 rest
    else ⟨c, index, line, column⟩ :: spotsFrom (index + 1) line (column + 1) rest

/-- The characters of a text, unless one of them may not be there. -/
def spots? (s : String) : Option (List Spot) :=
  let cs := s.toList
  if cs.all isAllowed then some (spotsFrom 0 0 0 cs) else none

/-! ### Looking ahead -/

/-- Whether the next character is this one. -/
def startsWith (c : Char) : List Spot → Bool
  | s :: _ => s.char = c
  | [] => false

/-- Whether a word ends here. -/
def atWordEnd : List Spot → Bool
  | s :: _ => isBlank s.char || isBreak s.char
  | [] => true

/-- The text of some characters. -/
def textOf (ss : List Spot) : List Char :=
  ss.map Spot.char

/-- The sign that starts or ends a document, when the line starts with it. -/
def documentSign? : List Spot → Option Char
  | a :: b :: c :: rest =>
    if a.column = 0 && (a.char = '-' || a.char = '.') && b.char = a.char && c.char = a.char && atWordEnd rest
    then some a.char else none
  | _ => none

/-- The rest of the text after the blanks here. -/
def skipBlanks (ss : List Spot) : List Spot :=
  ss.dropWhile fun s => isBlank s.char

/-- The rest of the text after the comment here, if there is one. -/
def skipComment (ss : List Spot) : List Spot :=
  if startsWith '#' ss then ss.dropWhile fun s => !isBreak s.char else ss

/-- The next line, when only blanks and a comment are left on this one. -/
def finishLine? (ss : List Spot) : Option (List Spot) :=
  match skipComment (skipBlanks ss) with
  | [] => some []
  | s :: rest => if isBreak s.char then some rest else none

end Tablewright.Yaml
