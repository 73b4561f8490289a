/-
Quoted scalars.

Between single quotes only the quote itself is special, and is written twice.
Between double quotes a backslash starts an escape: a named character, a
character by its number, or a line break that is taken back.  The signs of a
document may not start a line in either.
-/
import Tablewright.Text.Digits
import Tablewright.Yaml.Folding

namespace Tablewright.Yaml

/-- Scans a scalar after its single opening quote; gives its pieces and the text after it. -/
def scanSingle : List Spot → Option (List Piece × List Spot)
  | [] => none
  | s :: rest =>
    if (documentSign? (s :: rest)).isSome then none
    else if s.char = '\'' then
      match rest with
      | t :: after =>
        if t.char = '\'' then do
          let (pieces, rest) ← scanSingle after
          pure (.content '\'' :: pieces, rest)
        else pure ([], rest)
      | [] => pure ([], rest)
    else do
      let (pieces, rest) ← scanSingle rest
      pure (pieceOf s.char :: pieces, rest)

/-- The character of an escape that is named by one character. -/
def escapedChar? : Char → Option Char
  | '0' => some '\x00'
  | 'a' => some '\x07'
  | 'b' => some '\x08'
  | 't' | '\t' => some '\t'
  | 'n' => some '\n'
  | 'v' => some '\x0b'
  | 'f' => some '\x0c'
  | 'r' => some '\r'
  | 'e' => some '\x1b'
  | ' ' => some ' '
  | '"' => some '"'
  | '/' => some '/'
  | '\\' => some '\\'
  | 'N' => some '\u0085'
  | '_' => some '\u00a0'
  | 'L' => some '\u2028'
  | 'P' => some '\u2029'
  | _ => none

/-- How many digits follow an escape by number. -/
def escapedLength? : Char → Option Nat
  | 'x' => some 2
  | 'u' => some 4
  | 'U' => some 8
  | _ => none

/-- The character of a number, unless it is half of a surrogate pair or too great. -/
def charOf? (n : Nat) : Option Char :=
  if h : n.isValidChar then some (Char.ofNatAux n h) else none

/-- Where a scan between double quotes stands. -/
inductive Escape
  | none
  /-- After a backslash. -/
  | open
  /-- Inside a number: how many digits are due after the next one, and the number so far. -/
  | number (due value : Nat)
deriving DecidableEq

/-- Scans a scalar after its double opening quote; gives its pieces and the text after it. -/
def scanDouble : Escape → List Spot → Option (List Piece × List Spot)
  | _, [] => none
  | .number due value, s :: rest => do
    let value := 16 * value + (← Text.hexValue? s.char)
    match due with
    | 0 =>
      let c ← charOf? value
      let (pieces, rest) ← scanDouble .none rest
      pure (.content c :: pieces, rest)
    | due + 1 => scanDouble (.number due value) rest
  | .open, s :: rest =>
    if isBreak s.char then do
      let (pieces, rest) ← scanDouble .none rest
      pure (.continued :: pieces, rest)
    else match escapedChar? s.char, escapedLength? s.char with
      | some c, _ => do
        let (pieces, rest) ← scanDouble .none rest
        pure (.content c :: pieces, rest)
      | none, some length => scanDouble (.number (length - 1) 0) rest
      | none, none => none
  | .none, s :: rest =>
    if (documentSign? (s :: rest)).isSome then none
    else if s.char = '"' then pure ([], rest)
    else if s.char = '\\' then scanDouble .open rest
    else do
      let (pieces, rest) ← scanDouble .none rest
      pure (pieceOf s.char :: pieces, rest)

/-- The text of a scalar after its opening quote, and the text after its closing one. -/
def scanQuoted? (quote : Char) (ss : List Spot) : Option (String × List Spot) := do
  let (pieces, rest) ← if quote = '"' then scanDouble .none ss else scanSingle ss
  pure (foldClosed pieces, rest)

end Tablewright.Yaml
