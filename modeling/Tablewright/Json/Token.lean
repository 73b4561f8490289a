/-
The tokens of a JSON text.

Blanks only separate tokens.  A scalar is scanned completely before anyone asks
what it is for, so that its own faults come before a complaint about its type.
Tokens end at the first place from which no reader can go on.
-/
import Tablewright.Json.Numeral
import Tablewright.Json.Quoted

namespace Tablewright.Json

open Document

/-- A token. -/
inductive Token
  | openMap | closeMap | openList | closeList | colon | comma
  /-- A scalar other than a text; it may be one that cannot be read. -/
  | scalar (value : Tree)
  | text (content : Read String)
  /-- A text that breaks off. -/
  | brokenText (fault : Break)
  /-- A number or a word that breaks off. -/
  | brokenScalar (fault : Break)
  /-- A character that starts no token. -/
  | stray

/-- Whether a character only separates tokens. -/
def isBlank (c : Char) : Bool :=
  c = ' ' || c = '\n' || c = '\t' || c = '\r'

/-- Scans the letters of a word; gives the text after it. -/
def scanWord : (word : List Char) → List Char → Except Break (List Char)
  | [], rest => pure rest
  | _ :: _, [] => throw ⟨.endOfText .value, some (.endOfText .value), .expectedValue⟩
  | w :: word, c :: rest =>
    if c = w then scanWord word rest
    else throw ⟨.expectedWord, some .expectedWord, .expectedValue⟩

/-- Scans a text after its opening quote. -/
def scanText (cs : List Char) : Token × List Char :=
  let (pieces, ending, rest) := scanQuoted cs
  let content := String.ofList <$> decodePieces ending pieces
  match ending.fault? with
  | none => (.text content, rest)
  | some fault =>
    let read := match content with
      | .error e => e
      | .ok _ => fault
    (.brokenText ⟨read, some fault, read⟩, [])

/-- Scans a word that stands for a scalar, after its first letter. -/
def scanNamed (word : List Char) (s : Scalar) (cs : List Char) : Token × List Char :=
  match scanWord word cs with
  | .ok rest => (.scalar (.ofScalar s), rest)
  | .error fault => (.brokenScalar fault, [])

/-- Scans a number. -/
def scanNumber (cs : List Char) : Token × List Char :=
  match scanNumeral cs with
  | .error fault => (.brokenScalar fault, [])
  | .ok (numeral, rest) =>
    match numeral.number? with
    | some n => (.scalar (.ofScalar (.number n)), rest)
    | none => (.scalar (.broken ⟨.numberRange, none, .expectedValue⟩), rest)

/-- Scans the token that starts with a character; gives the text after it. -/
def scanToken (c : Char) (cs : List Char) : Token × List Char :=
  if c = '\x7b' then (.openMap, cs)
  else if c = '\x7d' then (.closeMap, cs)
  else if c = '[' then (.openList, cs)
  else if c = ']' then (.closeList, cs)
  else if c = ':' then (.colon, cs)
  else if c = ',' then (.comma, cs)
  else if c = '"' then scanText cs
  else if c = 'n' then scanNamed ['u', 'l', 'l'] .null cs
  else if c = 't' then scanNamed ['r', 'u', 'e'] (.flag true) cs
  else if c = 'f' then scanNamed ['a', 'l', 's', 'e'] (.flag false) cs
  else if c = '-' || c.isDigit then scanNumber (c :: cs)
  else (.stray, [])

/-- The tokens of a text of at most `size` characters; every round takes at least one of them. -/
def tokensWithin : (size : Nat) → List Char → List Token
  | _, [] => []
  | 0, _ :: _ => []
  | size + 1, c :: cs =>
    if isBlank c then tokensWithin size cs
    else
      let (token, rest) := scanToken c cs
      token :: tokensWithin size rest

/-- The tokens of a text. -/
def tokens (s : String) : List Token :=
  let cs := s.toList
  tokensWithin cs.length cs

end Tablewright.Json
