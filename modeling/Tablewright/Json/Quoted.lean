/-
Texts as JSON quotes them.

Scanning and decoding are separate steps.  Scanning finds the closing quote and
checks the form of the escapes; decoding pairs the surrogates, which only a
reader that needs the text does.
-/
import Tablewright.Document.Tree
import Tablewright.Text.Digits

namespace Tablewright.Json

open Document

/-- A piece of a quoted text. -/
inductive Piece
  | plain (c : Char)
  /-- A UTF-16 code unit written by its number. -/
  | unit (code : Nat)
deriving DecidableEq

/-- How a quoted text ends. -/
inductive QuoteEnd
  | closed
  | endOfText
  | control
  | unknownEscape
  | badNumber
deriving DecidableEq

/-- The character of an escape that is named by a letter. -/
def escapedChar? (c : Char) : Option Char :=
  if c = '"' || c = '\\' || c = '/' then some c
  else if c = 'b' then some '\x08'
  else if c = 'f' then some '\x0c'
  else if c = 'n' then some '\n'
  else if c = 'r' then some '\r'
  else if c = 't' then some '\t'
  else none

/-- The value of four hexadecimal digits. -/
def hexUnit? (a b c d : Char) : Option Nat := do
  let a ← Text.hexValue? a
  let b ← Text.hexValue? b
  let c ← Text.hexValue? c
  let d ← Text.hexValue? d
  pure (((a * 16 + b) * 16 + c) * 16 + d)

/-- What is wrong with a numbered escape: too little text is left, or it is not hexadecimal. -/
def badUnit (rest : List Char) : QuoteEnd :=
  if ((rest.take 4).flatMap String.utf8EncodeChar).length < 4 then .endOfText else .badNumber

/-- Scans a quoted text after its opening quote; gives its pieces, its end and the text after it. -/
def scanQuoted : List Char → List Piece × QuoteEnd × List Char
  | [] => ([], .endOfText, [])
  | '\\' :: 'u' :: a :: b :: c :: d :: rest =>
    match hexUnit? a b c d with
    | some code =>
      let (pieces, ending, after) := scanQuoted rest
      (.unit code :: pieces, ending, after)
    | none => ([], badUnit (a :: b :: c :: d :: rest), [])
  | '\\' :: e :: rest =>
    if e = 'u' then ([], badUnit rest, [])
    else match escapedChar? e with
      | some c =>
        let (pieces, ending, after) := scanQuoted rest
        (.plain c :: pieces, ending, after)
      | none => ([], .unknownEscape, [])
  | c :: rest =>
    if c = '"' then ([], .closed, rest)
    else if c = '\\' then ([], .endOfText, [])
    else if c.toNat < 0x20 then ([], .control, [])
    else
      let (pieces, ending, after) := scanQuoted rest
      (.plain c :: pieces, ending, after)

/-- What passing over a quoted text reports. -/
def QuoteEnd.fault? : QuoteEnd → Option Error
  | closed => none
  | endOfText => some (.endOfText .text)
  | control => some .controlCharacter
  | unknownEscape | badNumber => some .malformedEscape

/-- What a reader reports when a text ends where the second half of a surrogate pair is due. -/
def QuoteEnd.afterLeading : QuoteEnd → Error
  | endOfText => .endOfText .text
  | badNumber => .malformedEscape
  | closed | control | unknownEscape => .unpairedSurrogate

/-- Whether a code unit is the first half of a surrogate pair. -/
def isLeading (code : Nat) : Bool := 0xD800 ≤ code && code ≤ 0xDBFF

/-- Whether a code unit is the second half of a surrogate pair. -/
def isTrailing (code : Nat) : Bool := 0xDC00 ≤ code && code ≤ 0xDFFF

/-- Decodes the pieces of a quoted text; reports the first fault in the order of the text. -/
def decodePieces (ending : QuoteEnd) : List Piece → Read (List Char)
  | [] => match ending.fault? with
    | some fault => throw fault
    | none => pure []
  | .plain c :: rest => (c :: ·) <$> decodePieces ending rest
  | .unit code :: rest =>
    if isTrailing code then throw .loneSurrogate
    else if isLeading code then
      match rest with
      | .unit second :: rest =>
        if isTrailing second then
          (Char.ofNat (0x10000 + (code - 0xD800) * 0x400 + (second - 0xDC00)) :: ·) <$>
            decodePieces ending rest
        else throw .loneSurrogate
      | .plain _ :: _ => throw .unpairedSurrogate
      | [] => throw ending.afterLeading
    else (Char.ofNat code :: ·) <$> decodePieces ending rest

/-! ### Writing -/

/-- The two lower digits of a code below 256, in hexadecimal. -/
def hexPair (code : Nat) : List Char :=
  [Nat.digitChar (code / 16), Nat.digitChar (code % 16)]

/-- One character inside the quotes. -/
def escapeChar (c : Char) : List Char :=
  if c = '"' then ['\\', '"']
  else if c = '\\' then ['\\', '\\']
  else if c = '\x08' then ['\\', 'b']
  else if c = '\x0c' then ['\\', 'f']
  else if c = '\n' then ['\\', 'n']
  else if c = '\r' then ['\\', 'r']
  else if c = '\t' then ['\\', 't']
  else if c.toNat < 0x20 then '\\' :: 'u' :: '0' :: '0' :: hexPair c.toNat
  else [c]

/-- A text in quotes. -/
def quoted (s : String) : List Char :=
  '"' :: (s.toList.flatMap escapeChar ++ ['"'])

end Tablewright.Json
