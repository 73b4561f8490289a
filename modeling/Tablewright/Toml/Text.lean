/-
The texts of TOML.

A text stands between double quotes, with escapes, or between single quotes,
without any; tripled quotes let it go on over several lines.  A line break right
after an opening triple is lost, and inside, every line break is a line feed.  Up
to two quotes may stand in front of a closing triple.
-/
import Tablewright.Text.Digits

namespace Tablewright.Toml

/-- What a rule of the grammar reads from some characters, and the characters it leaves. -/
abbrev Rule (α : Type) := List Char → Option (α × List Char)

/-- Whether a character is blank within a line. -/
def isBlank (c : Char) : Bool :=
  c = ' ' || c = '\t'

/-- Whether a character may stand in a comment, and in a text apart from its quotes. -/
def isPrintable (c : Char) : Bool :=
  c = '\t' || (' ' ≤ c && c ≤ '~') || '\x7f' < c

/-- The characters after the blanks here. -/
def skipBlanks (cs : List Char) : List Char :=
  cs.dropWhile isBlank

/-- The characters after the line break here, if there is one. -/
def lineBreak? : List Char → Option (List Char)
  | '\n' :: rest | '\r' :: '\n' :: rest => some rest
  | _ => none

/-- The characters after the comment here, if there is one. -/
def skipComment (cs : List Char) : List Char :=
  if cs.head? = some '#' then cs.dropWhile isPrintable else cs

/-- The next line, when only blanks and a comment are left on this one. -/
def finishLine? (cs : List Char) : Option (List Char) :=
  match skipComment (skipBlanks cs) with
  | [] => some []
  | rest => lineBreak? rest

/-! ### Escapes -/

/-- The character of an escape that is named by a letter. -/
def escapedChar? : Char → Option Char
  | 'b' => some '\x08'
  | 't' => some '\t'
  | 'n' => some '\n'
  | 'f' => some '\x0c'
  | 'r' => some '\r'
  | '"' => some '"'
  | '\\' => some '\\'
  | _ => none

/-- How many digits follow an escape by number. -/
def escapedLength? : Char → Option Nat
  | 'u' => some 4
  | 'U' => some 8
  | _ => none

/-- The character of a number, unless it is half of a surrogate pair or too great. -/
def charOf? (n : Nat) : Option Char :=
  if h : n.isValidChar then some (Char.ofNatAux n h) else none

/-- Where a scan between double quotes stands. -/
inductive Escape
  /-- Outside an escape; `joining` tells whether blanks and line breaks are passed over. -/
  | none (joining : Bool)
  /-- After a backslash. -/
  | open
  /-- Inside a number: how many digits are due after the next one, and the number so far. -/
  | number (due value : Nat)
  /-- After a backslash and blanks, which a line break must follow. -/
  | breaking
deriving DecidableEq

/-- The rest of a text between double quotes after one character of it. -/
def consRest (c : Char) (rest : Option (List Char × List Char)) : Option (List Char × List Char) :=
  rest.map fun (text, after) => (c :: text, after)

/-- A text after its opening double quotes; `tripled` says whether there were three of them. -/
def scanEscaped (tripled : Bool) : Escape → Rule (List Char)
  | _, [] => none
  | .number due value, c :: rest => do
    let value := 16 * value + (← Text.hexValue? c)
    match due with
    | 0 => consRest (← charOf? value) (scanEscaped tripled (.none false) rest)
    | due + 1 => scanEscaped tripled (.number due value) rest
  | .open, c :: rest =>
    match escapedChar? c, escapedLength? c with
    | some c, _ => consRest c (scanEscaped tripled (.none false) rest)
    | none, some length => scanEscaped tripled (.number (length - 1) 0) rest
    | none, none =>
      match tripled, c, rest with
      | true, '\n', rest | true, '\r', '\n' :: rest => scanEscaped tripled (.none true) rest
      | true, c, rest => if isBlank c then scanEscaped tripled .breaking rest else none
      | false, _, _ => none
  | .breaking, c :: rest =>
    match c, rest with
    | '\n', rest | '\r', '\n' :: rest => scanEscaped tripled (.none true) rest
    | c, rest => if isBlank c then scanEscaped tripled .breaking rest else none
  | .none joining, c :: rest =>
    match tripled, c, rest with
    | false, '"', rest => some ([], rest)
    | true, '"', '"' :: '"' :: '"' :: '"' :: rest => some (['"', '"'], rest)
    | true, '"', '"' :: '"' :: '"' :: rest => some (['"'], rest)
    | true, '"', '"' :: '"' :: rest => some ([], rest)
    | true, '\n', rest | true, '\r', '\n' :: rest =>
      if joining then scanEscaped tripled (.none true) rest
      else consRest '\n' (scanEscaped tripled (.none false) rest)
    | _, c, rest =>
      if c = '\\' then scanEscaped tripled .open rest
      else if joining && isBlank c then scanEscaped tripled (.none true) rest
      else if isPrintable c then consRest c (scanEscaped tripled (.none false) rest)
      else none

/-- A text after its opening single quotes; `tripled` says whether there were three of them. -/
def scanVerbatim (tripled : Bool) : Rule (List Char)
  | [] => none
  | c :: rest =>
    match tripled, c, rest with
    | false, '\'', rest => some ([], rest)
    | true, '\'', '\'' :: '\'' :: '\'' :: '\'' :: rest => some (['\'', '\''], rest)
    | true, '\'', '\'' :: '\'' :: '\'' :: rest => some (['\''], rest)
    | true, '\'', '\'' :: '\'' :: rest => some ([], rest)
    | true, '\n', rest | true, '\r', '\n' :: rest => consRest '\n' (scanVerbatim tripled rest)
    | _, c, rest => if isPrintable c then consRest c (scanVerbatim tripled rest) else none

/-- The characters after the line break right after an opening triple. -/
def dropFirstBreak (cs : List Char) : List Char :=
  (lineBreak? cs).getD cs

/-- A text on one line. -/
def scanLineText : Rule String
  | '"' :: rest => (scanEscaped false (.none false) rest).map fun (text, rest) => (String.ofList text, rest)
  | '\'' :: rest => (scanVerbatim false rest).map fun (text, rest) => (String.ofList text, rest)
  | _ => none

/-- A text of any kind. -/
def scanText : Rule String
  | '"' :: '"' :: '"' :: rest =>
    (scanEscaped true (.none false) (dropFirstBreak rest)).map fun (text, rest) => (String.ofList text, rest)
  | '\'' :: '\'' :: '\'' :: rest =>
    (scanVerbatim true (dropFirstBreak rest)).map fun (text, rest) => (String.ofList text, rest)
  | cs => scanLineText cs

end Tablewright.Toml
