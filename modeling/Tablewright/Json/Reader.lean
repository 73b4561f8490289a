/-
JSON texts as trees.

The tokens are taken one at a time, with a stack of the containers that are
still open.  A text that breaks off closes all of them at the place where it
breaks, so every text has a tree.
-/
import Tablewright.Json.Token
import Tablewright.Document.Value

namespace Tablewright.Json

open Document

/-- How many containers a reader enters inside one another. -/
def depthLimit : Nat := 127

/-- A container that is still open, its parts in reverse. -/
inductive Frame
  | list (items : List Tree)
  | map (members : List (Key × Tree))
  /-- A map that waits for the value of its last key. -/
  | member (members : List (Key × Tree)) (key : Key)

/-- What may come next. -/
inductive Expecting
  /-- A value, after a colon or at the start. -/
  | value
  /-- A value, after a comma in a list. -/
  | nextItem
  /-- A value, or the end of a list that is still empty. -/
  | firstItem
  | afterItem
  /-- A key, or the end of a map that is still empty. -/
  | firstKey
  | nextKey
  | colon
  | afterMember
deriving DecidableEq

/-- How far a text has been taken. -/
inductive Progress
  | open (stack : List Frame) (next : Expecting)
  /-- The tree is complete; `trailing` tells whether more text followed. -/
  | complete (tree : Tree) (trailing : Bool)
  /-- The text broke off. -/
  | broken (tree : Tree)

/-- A container with `enclosing` containers around it, as a reader meets it. -/
def nested (enclosing : Nat) (t : Tree) : Tree :=
  if enclosing < depthLimit then t else .barred .depth t

/-- Closes the open containers around a part at which the text breaks off. -/
def breakOff : List Frame → Tree → Tree
  | [], t => t
  | .list items :: stack, t => breakOff stack (nested stack.length (.list (t :: items).reverse .closed))
  | .map members :: stack, _ => breakOff stack (nested stack.length (.map members.reverse .closed))
  | .member members key :: stack, t =>
    breakOff stack (nested stack.length (.map ((key, t) :: members).reverse .closed))

/-- Breaks off where a value is due. -/
def breakValue (stack : List Frame) (fault : Error) : Progress :=
  .broken (breakOff stack (.broken ⟨fault, some fault, fault⟩))

/-- Ends the innermost list in an unusual way. -/
def breakList (stack : List Frame) (ending : ListEnd) : Progress :=
  match stack with
  | .list items :: stack => .broken (breakOff stack (nested stack.length (.list items.reverse ending)))
  | stack => breakValue stack .expectedValue

/-- Ends the innermost map in an unusual way. -/
def breakMap (stack : List Frame) (ending : Key → MapEnd) : Progress :=
  match stack with
  | .map members :: stack =>
    .broken (breakOff stack (nested stack.length (.map members.reverse (ending (.ofText (pure ""))))))
  | .member members key :: stack =>
    .broken (breakOff stack (nested stack.length (.map members.reverse (ending key))))
  | stack => breakValue stack .expectedValue

/-- Puts a complete part where it belongs. -/
def put (t : Tree) : List Frame → Progress
  | [] => .complete t false
  | .list items :: stack => .open (.list (t :: items) :: stack) .afterItem
  | .map members :: stack => .open (.map members :: stack) .afterMember
  | .member members key :: stack => .open (.map ((key, t) :: members) :: stack) .afterMember

/-- Closes the innermost container. -/
def close : List Frame → Progress
  | .list items :: stack => put (nested stack.length (.list items.reverse .closed)) stack
  | .map members :: stack => put (nested stack.length (.map members.reverse .closed)) stack
  | stack => breakValue stack .expectedValue

/-- Takes the first token of a value. -/
def takeValue (stack : List Frame) : Token → Progress
  | .openMap => .open (.map [] :: stack) .firstKey
  | .openList => .open (.list [] :: stack) .firstItem
  | .scalar value => put value stack
  | .text (.ok content) => put (.ofScalar (.text content)) stack
  | .text (.error fault) => put (.broken ⟨fault, none, fault⟩) stack
  | .brokenText fault | .brokenScalar fault => .broken (breakOff stack (.broken fault))
  | .closeMap | .closeList | .colon | .comma | .stray => breakValue stack .expectedValue

/-- What a message says of a token that is no key. -/
def foundAsKey : Token → Read Found
  | .openMap => pure .map
  | .openList => pure .sequence
  | .scalar value => value.found
  | .brokenScalar fault => throw fault.read
  | _ => throw .expectedValue

/-- Takes a key. -/
def takeKey (stack : List Frame) (token : Token) : Progress :=
  match token, stack with
  | .text content, .map members :: stack => .open (.member members (.ofText content) :: stack) .colon
  | .brokenText fault, stack => breakMap stack fun _ => .brokenKey fault
  | token, stack => breakMap stack fun _ => .keyNotText (foundAsKey token)

/-- Takes one token. -/
def step : Progress → Token → Progress
  | .complete t _, _ => .complete t true
  | .broken t, _ => .broken t
  | .open stack next, token =>
    match next, token with
    | .value, token => takeValue stack token
    | .firstItem, .closeList => close stack
    | .firstItem, token => takeValue stack token
    | .nextItem, .closeList => breakList stack .commaThenClose
    | .nextItem, token => takeValue stack token
    | .afterItem, .comma => .open stack .nextItem
    | .afterItem, .closeList => close stack
    | .afterItem, _ => breakList stack .noComma
    | .firstKey, .closeMap => close stack
    | .firstKey, token => takeKey stack token
    | .nextKey, .closeMap => breakMap stack fun _ => .commaThenClose
    | .nextKey, token => takeKey stack token
    | .colon, .colon => .open stack .value
    | .colon, _ => breakMap stack (.afterKey · .expectedColon)
    | .afterMember, .comma => .open stack .nextKey
    | .afterMember, .closeMap => close stack
    | .afterMember, _ => breakMap stack fun _ => .noComma

/-- Ends the text. -/
def finish : Progress → Progress
  | .open stack next =>
    match next with
    | .value => breakValue stack (.endOfText .value)
    | .nextItem => breakList stack .commaThenEnd
    | .firstItem | .afterItem => breakList stack .endOfText
    | .firstKey | .afterMember => breakMap stack fun _ => .endOfText
    | .nextKey => breakMap stack fun _ => .commaThenEnd
    | .colon => breakMap stack (.afterKey · (.endOfText .object))
  | progress => progress

/-- The tree of a text, and whether more text follows it. -/
def parse (s : String) : Tree × Bool :=
  match finish ((tokens s).foldl step (.open [] .value)) with
  | .complete t trailing => (t, trailing)
  | .broken t => (t, false)
  | .open _ _ => (.broken ⟨.endOfText .value, some (.endOfText .value), .endOfText .value⟩, false)

/-- Reads a whole text. -/
def readText {α : Type} (read : Tree → Read α) (s : String) : Read α := do
  let (tree, trailing) := parse s
  let a ← read tree
  if trailing then throw .trailingText
  pure a

end Tablewright.Json
