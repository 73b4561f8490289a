/-
What YAML scalars say.

A plain scalar says what it looks like: nothing, a flag, a number or a text.  A
quoted one is a text.  A tag of the core types fixes the type, and the scalar
fits no reader when it does not have it; a tag of the document's own leaves only
the text.
-/
import Tablewright.Decimal.Reading
import Tablewright.Document.Tree
import Tablewright.Yaml.Token

namespace Tablewright.Yaml

open Document

/-- Whether a plain scalar says that nothing is there. -/
def isNull (text : String) : Bool :=
  text = "" || text = "~" || text = "null" || text = "Null" || text = "NULL"

/-- The flag that a plain scalar says. -/
def flag? (text : String) : Option Bool :=
  if text = "true" || text = "True" || text = "TRUE" then some true
  else if text = "false" || text = "False" || text = "FALSE" then some false
  else none

/-! ### Numbers -/

/-- A sign in front of some characters. -/
def scanSign : List Char → Option Char × List Char
  | '+' :: rest => (some '+', rest)
  | '-' :: rest => (some '-', rest)
  | cs => (none, cs)

/-- Whether decimal digits start with a zero that is not all there is. -/
def hasLeadingZero (digits : List Char) : Bool :=
  digits.head? = some '0' && 1 < digits.length && digits.all Char.isDigit

/-- The natural number of digits after an optional sign of their base. -/
def magnitude? : List Char → Option Nat
  | '0' :: 'x' :: rest => Text.natural? 16 rest
  | '0' :: 'o' :: rest => Text.natural? 8 rest
  | '0' :: 'b' :: rest => Text.natural? 2 rest
  | cs => if hasLeadingZero cs then none else Text.natural? 10 cs

/-- The integer that a plain scalar says. -/
def integer? (cs : List Char) : Option Int :=
  let (sign, rest) := scanSign cs
  (magnitude? rest).map fun n => if sign = some '-' then -(n : Int) else n

/-- The natural number that a plain scalar says to a reader that asks for one. -/
def count? (cs : List Char) : Option Nat :=
  if cs.head? = some '-' then none else magnitude? (scanSign cs).2

/-- The exponent at the end of a decimal. -/
def scanExponent? : List Char → Option Int
  | [] => some 0
  | e :: rest =>
    if e = 'e' || e = 'E' then
      let (sign, digits) := scanSign rest
      (Text.natural? 10 digits).bind fun n =>
        if digits.all Char.isDigit then some (if sign = some '-' then -(n : Int) else n) else none
    else none

/-- The decimal that some characters spell. -/
def decimal? (cs : List Char) : Option DecimalLiteral :=
  let (sign, rest) := scanSign cs
  let integer := rest.takeWhile Char.isDigit
  let rest := rest.dropWhile Char.isDigit
  let (fraction, rest) := match rest with
    | '.' :: rest => (rest.takeWhile Char.isDigit, rest.dropWhile Char.isDigit)
    | rest => ([], rest)
  if integer.isEmpty && fraction.isEmpty then none
  else (scanExponent? rest).map fun exponent => ⟨sign = some '-', integer, fraction, exponent⟩

/-- Whether a text stands for an infinity or for what is not a number. -/
def isUnbounded (text : String) : Bool :=
  [".inf", ".Inf", ".INF", "+.inf", "+.Inf", "+.INF", "-.inf", "-.Inf", "-.INF",
    ".nan", ".NaN", ".NAN"].contains text

/-- What a plain scalar that is no integer says as a number. -/
def fractional? (text : String) : Option Scalar :=
  if isUnbounded text then some .unbounded
  else ((decimal? text.toList).bind DecimalLiteral.double?).map fun x => .number (.binary x)

/-- What a plain scalar says as a whole number; beyond 128 bits it is none. -/
def whole? (text : String) : Option Scalar :=
  (integer? text.toList).bind fun n =>
    match Number.ofInt? n with
    | some number => some (.number number)
    | none => if -(wordHalf * wordSize) ≤ n && n < wordSize * wordSize then some .oversized else none

/-! ### Scalars -/

/-- What a scalar without quotes and without a tag says. -/
def plainScalar (text : String) : Scalar :=
  if isNull text then .null
  else match flag? text, whole? text with
    | some value, _ => .flag value
    | none, some s => s
    | none, none =>
      if hasLeadingZero (scanSign text.toList).2 then .text text
      else (fractional? text).getD (.text text)

/-- What a scalar says to a reader that asks for a flag or a count. -/
def exactScalar (text : String) : Scalar :=
  if isNull text then .null
  else match flag? text, (count? text.toList).bind fun n => Number.ofInt? n with
    | some value, _ => .flag value
    | none, some n => .number n
    | none, none => .text text

/-- The types of the core, by their tags. -/
inductive CoreType
  | flag
  | integer
  | decimal
  | null
deriving DecidableEq

/-- The type of a tag. -/
def CoreType.ofTag? : String → Option CoreType
  | "tag:yaml.org,2002:bool" => some flag
  | "tag:yaml.org,2002:int" => some integer
  | "tag:yaml.org,2002:float" => some decimal
  | "tag:yaml.org,2002:null" => some null
  | _ => none

/-- What a scalar of a type says, when it has that type. -/
def CoreType.scalar? (text : String) : CoreType → Option Scalar
  | flag => (flag? text).map .flag
  | integer => whole? text
  | decimal => fractional? text
  | null => if isNull text && text ≠ "" then some .null else none

/-- Whether a tag is of the document's own. -/
def isLocalTag (tag : String) : Bool :=
  tag.toList.head? = some '!'

/-- A scalar without quotes. -/
def plainLeaf (text : String) : Leaf :=
  ⟨exactScalar text, some (plainScalar text), some text, isNull text⟩

/-- A scalar that is a text, whatever it looks like. -/
def textLeaf (text : String) : Leaf :=
  ⟨.text text, some (.text text), some text, false⟩

/-- A scalar with a tag. -/
def taggedLeaf (style : Style) (tag text : String) : Leaf :=
  match CoreType.ofTag? tag with
  | some type =>
    let meaning := type.scalar? text
    let strict := if style = .plain then exactScalar text
      else match style, type, exactScalar text with
        | .literal, .flag, .flag value => .flag value
        | .literal, .integer, .number n => .number n
        | _, _, _ => .text text
    let unfit := style = .plain && type = .null && meaning.isNone
    if unfit then ⟨.oversized, none, none, false⟩
    else ⟨strict, meaning, some text, style = .plain && type = .null⟩
  | none =>
    let strict := if style = .plain then exactScalar text else .text text
    ⟨strict, if isLocalTag tag then none else some (.text text), some text, false⟩

/-- A scalar as it is read. -/
def leafOf (style : Style) (tag : Option String) (text : String) : Leaf :=
  match tag with
  | some tag => taggedLeaf style tag text
  | none => if style = .plain then plainLeaf text else textLeaf text

end Tablewright.Yaml
