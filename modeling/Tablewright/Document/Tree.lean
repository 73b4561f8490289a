/-
Structured documents as trees.

The three notations a document may be written in (JSON, YAML and TOML) all give
a tree.  A tree also holds the places where its text breaks off the notation, so
that a reader can walk it in the order of the text: what is wrong with a value's
type is reported before a fault further on, and a value that nobody asks for is
held to a weaker standard than one that is read.

A scalar answers several questions.  A YAML scalar such as `true` is a flag to a
reader that asks for a flag and the text `true` to one that asks for a text; a
JSON scalar is one thing only.
-/
import Tablewright.Document.Error

namespace Tablewright.Document

/-- What a scalar says. -/
inductive Scalar
  | null
  | flag (value : Bool)
  | number (value : Number)
  | text (value : String)
  /-- A number without a finite double: an infinity or not a number. -/
  | unbounded
  /-- An integer that does not fit 64 bits. -/
  | oversized
deriving DecidableEq

/-- A scalar with its answers to the different ways of reading it. -/
structure Leaf where
  /-- The answer to a reader that asks for a flag or a count. -/
  strict : Scalar
  /-- The answer to a reader that takes whatever is there; none when its mark contradicts it. -/
  loose : Option Scalar
  /-- Its spelling, when a reader that asks for a text may take it whatever it says. -/
  spelling : Option String
  /-- Whether an optional field given this value counts as left out. -/
  absent : Bool
deriving DecidableEq

/-- A scalar that is one thing only. -/
def Leaf.ofScalar (s : Scalar) : Leaf :=
  ⟨s, some s, none, s = .null⟩

/-- What the key of a member says to a reader of named fields. -/
inductive Label
  | name (text : String)
  /-- The position of a field. -/
  | index (position : Nat)
  | other
deriving DecidableEq

/-- A key, read either by a reader that knows the fields or by one that takes whatever is there. -/
structure Key where
  direct : Read Label
  loose : Read Label

/-- A key that is a text. -/
def Key.ofText (text : Read String) : Key :=
  ⟨text.map .name, text.map .name⟩

/-- A place where the text breaks off its notation. -/
structure Break where
  /-- What a reader reports there. -/
  read : Error
  /-- What is reported when the value is passed over, if anything. -/
  skip : Option Error
  /-- What a reader reports that looks no further than the first character. -/
  glance : Error

/-- How the text of a list ends. -/
inductive ListEnd
  | closed
  /-- Closed, and a record may leave items of it unread. -/
  | unchecked
  | noComma
  | endOfText
  | commaThenClose
  | commaThenEnd
deriving DecidableEq

/-- How the text of a map ends. -/
inductive MapEnd
  | closed
  | noComma
  | endOfText
  | commaThenClose
  | commaThenEnd
  /-- Something other than a text stands where a key should. -/
  | keyNotText (found : Read Found)
  | brokenKey (fault : Break)
  /-- No value follows the key. -/
  | afterKey (key : Key) (fault : Error)

/-- Why a container may not be entered although it is well formed. -/
inductive Bar
  /-- It lies too deep for a reader. -/
  | depth
  /-- It is marked with a type of its own, which a reader that takes whatever is there refuses. -/
  | mark
deriving DecidableEq

/-- A structured document, as far as its text goes. -/
inductive Tree
  | leaf (scalar : Leaf)
  | list (items : List Tree) (ending : ListEnd)
  | map (members : List (Key × Tree)) (ending : MapEnd)
  | barred (bar : Bar) (inner : Tree)
  | broken (fault : Break)

/-! ### Ends -/

/-- What a reader of all items reports at the end of a list. -/
def ListEnd.read : ListEnd → Read Unit
  | closed | unchecked => pure ()
  | noComma => throw .expectedCommaInList
  | endOfText => throw (.endOfText .list)
  | commaThenClose => throw .trailingComma
  | commaThenEnd => throw (.endOfText .value)

/-- What passing over a list reports at its end. -/
def ListEnd.skip : ListEnd → Read Unit
  | commaThenClose => throw .expectedValue
  | ending => ending.read

/-- What a reader that wants no more items reports, when `unread` says whether there are any. -/
def ListEnd.stop : ListEnd → (unread : Bool) → Read Unit
  | unchecked, _ => pure ()
  | _, true => throw .trailingText
  | closed, false => pure ()
  | endOfText, false => throw (.endOfText .list)
  | commaThenClose, false => throw .trailingComma
  | noComma, false | commaThenEnd, false => throw .trailingText

/-- What a reader of all members reports at the end of a map. -/
def MapEnd.read : MapEnd → Read Unit
  | closed => pure ()
  | noComma => throw .expectedCommaInObject
  | endOfText => throw (.endOfText .object)
  | commaThenClose => throw .trailingComma
  | commaThenEnd => throw (.endOfText .value)
  | keyNotText _ => throw .keyNotText
  | brokenKey fault => throw fault.read
  | afterKey key fault => do
    let _ ← key.direct
    throw fault

/-- What passing over a map reports at its end. -/
def MapEnd.skip : MapEnd → Read Unit
  | commaThenClose => throw .keyNotText
  | commaThenEnd => throw (.endOfText .object)
  | brokenKey fault => match fault.skip with
    | some error => throw error
    | none => pure ()
  | afterKey _ fault => throw fault
  | ending => ending.read

/-! ### Passing over and describing -/

namespace Tree

/-- A tree of one scalar that is one thing only. -/
def ofScalar (s : Scalar) : Tree :=
  leaf (.ofScalar s)

mutual

/-- Passes over a value that nobody asks for. -/
def skip : Tree → Read Unit
  | leaf _ => pure ()
  | list items ending => do
    skipItems items
    ending.skip
  | map members ending => do
    skipMembers members
    ending.skip
  | barred _ inner => inner.skip
  | broken fault => match fault.skip with
    | some error => throw error
    | none => pure ()

def skipItems : List Tree → Read Unit
  | [] => pure ()
  | item :: rest => do
    item.skip
    skipItems rest

def skipMembers : List (Key × Tree) → Read Unit
  | [] => pure ()
  | (_, value) :: rest => do
    value.skip
    skipMembers rest

end

/-- What a message says is there. -/
def found : Tree → Read Found
  | leaf scalar => pure <| match scalar.strict with
    | .null => .null
    | .flag value => .flag value
    | .number value => .number value
    | .text value => .text value
    | .unbounded | .oversized => .text (scalar.spelling.getD "")
  | list _ _ => pure .sequence
  | map _ _ => pure .map
  | barred _ inner => inner.found
  | broken fault => throw fault.read

/-- The report that something else was wanted. -/
def refuse {α : Type} (t : Tree) (wanted : String) : Read α := do
  throw (.wrongType (← t.found) wanted)

/-! ### Reading scalars -/

/-- Whether an optional field given this value counts as left out. -/
def isAbsent : Tree → Bool
  | leaf scalar => scalar.absent
  | _ => false

/-- Reads a value that may be left out. -/
def optional {α : Type} (read : Tree → Read α) (t : Tree) : Read (Option α) :=
  if t.isAbsent then pure none else some <$> read t

/-- Reads a text. -/
def text (t : Tree) : Read String :=
  match t with
  | leaf ⟨_, _, some spelling, _⟩ => pure spelling
  | leaf ⟨.text value, _, none, _⟩ => pure value
  | _ => t.refuse "a string"

/-- Reads a flag. -/
def flag (t : Tree) : Read Bool :=
  match t with
  | leaf ⟨.flag value, _, _, _⟩ => pure value
  | _ => t.refuse "a boolean"

/-- Reads a count below `bound`, which messages call `title`. -/
def count (bound : Nat) (title : String) (t : Tree) : Read Nat :=
  match t with
  | leaf ⟨.number (.whole value fits), _, _, _⟩ =>
    if 0 ≤ value ∧ value.toNat < bound then pure value.toNat
    else throw (.wrongValue (.number (.whole value fits)) title)
  | _ => t.refuse title

/-- Reads a number of either kind. -/
def number (t : Tree) : Read Number :=
  match t with
  | leaf ⟨_, some (.number value), _, _⟩ => pure value
  | barred .depth _ => throw .tooDeep
  | _ => t.refuse "a JSON number"

/-! ### Reading containers -/

/-- The items of a list, read one by one. -/
def listOf {α : Type} (read : Tree → Read α) : Tree → Read (List α)
  | list items ending => do
    let values ← items.mapM read
    ending.read
    pure values
  | leaf ⟨.null, _, some "", _⟩ => pure []
  | barred .depth (list _ _) => throw .tooDeep
  | barred .mark (list items ending) => do
    let values ← items.mapM read
    ending.read
    pure values
  | t => t.refuse "a sequence"

end Tree

end Tablewright.Document
